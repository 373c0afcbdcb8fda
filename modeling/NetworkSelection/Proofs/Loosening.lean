import Mathlib.Data.List.Forall2
import NetworkSelection.Json.Codec

/-!
# Looser forms of a JSON value

A structure is written as an object with all its fields in a fixed order.  A looser form
of that object has the same members in any order, leaves out some that have the value
their absence stands for, and may have members of names the structure does not know.
Inside a list and inside an object the values may be written in a looser form again.

`Json.Loosened defaults j j'` says that `j'` is a looser form of `j`, where `defaults`
gives the members that may be left out, each with the value its absence stands for.

* `Json.Loosened.fields?`: in a looser form of an object each field is found with a looser
  form of its value, or it is missing and has its default.
* `Json.Loosened.eq_of_isPlain`: a value that is no list and no object has one form only.
* `LawfulCodec`: the types that are read back from every looser form of what is written,
  with the rules for plain values, lists, fields that have to be given and fields that
  have a default.
-/

namespace NetworkSelection

namespace Json

/-! ## The forms -/

/-- The second list has the members of the first, their values changed as `R` allows,
without some members that have their default. -/
inductive Thinned (defaults : List (String × Json)) (R : Json → Json → Prop) :
    List (String × Json) → List (String × Json) → Prop
  | nil : Thinned defaults R [] []
  | kept (name : String) {value value' : Json} {written given : List (String × Json)} :
      R value value' → Thinned defaults R written given →
      Thinned defaults R ((name, value) :: written) ((name, value') :: given)
  | leftOut (name : String) {value : Json} {written given : List (String × Json)} :
      defaults.lookup name = some value → Thinned defaults R written given →
      Thinned defaults R ((name, value) :: written) given

/-- The second value is a looser form of the first.  A member that was left out is not
put back under another value: the names of the `extra` members are all unknown. -/
inductive Loosened (defaults : List (String × Json)) : Json → Json → Prop
  | same (j : Json) : Loosened defaults j j
  | list {items items' : List Json} :
      List.Forall₂ (Loosened defaults) items items' →
      Loosened defaults (.list items) (.list items')
  | object {written given members : List (String × Json)} (extra : List (String × Json)) :
      Thinned defaults (Loosened defaults) written given →
      (∀ member ∈ extra, member.1 ∉ written.map Prod.fst) →
      members.Perm (given ++ extra) →
      Loosened defaults (.object written) (.object members)

/-- A value that is no list and no object. -/
def IsPlain : Json → Prop
  | .list _ | .object _ => False
  | _ => True

variable {defaults : List (String × Json)} {R : Json → Json → Prop}

theorem Loosened.eq_of_isPlain {j j' : Json} (h : Loosened defaults j j') (hj : j.IsPlain) :
    j' = j := by
  cases h with
  | same => rfl
  | list => exact hj.elim
  | object => exact hj.elim

/-! ## Finding a field -/

/-- What is found of a member that was written: its value, changed as `R` allows, or
nothing if the member has its default. -/
inductive Found (defaults : List (String × Json)) (R : Json → Json → Prop) :
    String × Json → Option Json → Prop
  | given {name : String} {value value' : Json} :
      R value value' → Found defaults R (name, value) (some value')
  | missing {name : String} {value : Json} :
      defaults.lookup name = some value → Found defaults R (name, value) none

theorem Thinned.of_refl (hR : ∀ j, R j j) :
    ∀ members : List (String × Json), Thinned defaults R members members
  | [] => .nil
  | (name, value) :: members => .kept name (hR value) (of_refl hR members)

/-- Thinning invents no names. -/
theorem Thinned.name_mem {written given : List (String × Json)}
    (h : Thinned defaults R written given) {name : String} {value : Json}
    (hmem : (name, value) ∈ given) : name ∈ written.map Prod.fst := by
  induction h with
  | nil => simp at hmem
  | kept _ _ _ ih =>
    rcases List.mem_cons.1 hmem with heq | hmem
    · simp [(Prod.mk.inj heq).1]
    · exact List.mem_cons_of_mem _ (ih hmem)
  | leftOut _ _ _ ih => exact List.mem_cons_of_mem _ (ih hmem)

/-- Where no name is written twice, thinning leaves at most one member of each name: the
one written, or none if the one written has its default. -/
theorem Thinned.found {written given : List (String × Json)}
    (h : Thinned defaults R written given) (hnames : (written.map Prod.fst).Nodup)
    {name : String} {value : Json} (hmem : (name, value) ∈ written) :
    ∃ found, Found defaults R (name, value) found ∧
      ∀ value', (name, value') ∈ given ↔ found = some value' := by
  induction h with
  | nil => simp at hmem
  | @kept head _ headValue' written given hvalue hrest ih =>
    obtain ⟨hhead, hnames⟩ := List.nodup_cons.1 hnames
    rcases List.mem_cons.1 hmem with heq | htail
    · obtain ⟨rfl, rfl⟩ := Prod.mk.inj heq
      refine ⟨some headValue', .given hvalue, fun value' => ?_⟩
      have hrest' : (name, value') ∉ given := fun h => hhead (hrest.name_mem h)
      simp [hrest', eq_comm]
    · obtain ⟨found, hfound, hgiven⟩ := ih hnames htail
      have hne : name ≠ head := by
        rintro rfl
        exact hhead (List.mem_map.2 ⟨_, htail, rfl⟩)
      exact ⟨found, hfound, fun value' => by simp [hne, hgiven]⟩
  | @leftOut head _ written given hdefault hrest ih =>
    obtain ⟨hhead, hnames⟩ := List.nodup_cons.1 hnames
    rcases List.mem_cons.1 hmem with heq | htail
    · obtain ⟨rfl, rfl⟩ := Prod.mk.inj heq
      refine ⟨none, .missing hdefault, fun value' => ?_⟩
      have hrest' : (name, value') ∉ given := fun h => hhead (hrest.name_mem h)
      simp [hrest']
    · exact ih hnames htail

/-- A lookup finds the only member of that name. -/
theorem lookup_eq_of_mem_iff {name : String} {members : List (String × Json)}
    {found : Option Json} (h : ∀ value, (name, value) ∈ members ↔ found = some value) :
    members.lookup name = found := by
  cases hlookup : members.lookup name with
  | none =>
    cases found with
    | none => rfl
    | some value =>
      have hmem := (h value).2 rfl
      simpa using List.lookup_eq_none_iff.1 hlookup _ hmem
  | some value =>
    obtain ⟨before, after, rfl, -⟩ := List.lookup_eq_some_iff.1 hlookup
    exact ((h value).1 (by simp)).symm

/-- The fields found in a looser form of an object are those that were written, however
many names are asked for and in whatever order. -/
theorem Loosened.fields? {written : List (String × Json)} {j : Json}
    (h : Loosened defaults (.object written) j) (hnames : (written.map Prod.fst).Nodup) :
    ∃ found : String → Option Json,
      (∀ names, j.fields? names = some (names.map found)) ∧
        ∀ member ∈ written, Found defaults (Loosened defaults) member (found member.1) := by
  have hobject : ∃ members given extra, j = .object members ∧
      Thinned defaults (Loosened defaults) written given ∧
      (∀ member ∈ extra, member.1 ∉ written.map Prod.fst) ∧ members.Perm (given ++ extra) := by
    cases h with
    | same => exact ⟨written, written, [], rfl, .of_refl .same written, by simp, by simp⟩
    | object _ hthinned hextra hperm => exact ⟨_, _, _, rfl, hthinned, hextra, hperm⟩
  obtain ⟨members, given, extra, rfl, hthinned, hextra, hperm⟩ := hobject
  refine ⟨fun name => members.lookup name, fun names => rfl, ?_⟩
  rintro ⟨name, value⟩ hmem
  obtain ⟨found, hfound, hgiven⟩ := hthinned.found hnames hmem
  have hknown : name ∈ written.map Prod.fst := List.mem_map.2 ⟨_, hmem, rfl⟩
  have hmembers : ∀ value', (name, value') ∈ members ↔ found = some value' := by
    intro value'
    have hunknown : (name, value') ∉ extra := fun h => hextra _ h hknown
    rw [hperm.mem_iff, List.mem_append, or_iff_left hunknown, hgiven]
  show Found defaults (Loosened defaults) (name, value) (members.lookup name)
  rw [lookup_eq_of_mem_iff hmembers]
  exact hfound

end Json

open Json (Loosened Found required? fieldD?)

/-! ## Types that are read back -/

/-- A type whose values are read back from every looser form of what is written. -/
class LawfulCodec (defaults : List (String × Json)) (α : Type) [JsonCodec α] : Prop where
  ofJson?_eq {a : α} {j : Json} (h : Loosened defaults (toJson a) j) : ofJson? j = some a

namespace LawfulCodec

variable {α : Type} [JsonCodec α] {defaults : List (String × Json)}

/-- A type that is written plainly has to be read back from what is written only. -/
theorem of_isPlain (hplain : ∀ a : α, (toJson a).IsPlain)
    (hwritten : ∀ a : α, ofJson? (toJson a) = some a) : LawfulCodec defaults α where
  ofJson?_eq {a j} h := by rw [h.eq_of_isPlain (hplain a), hwritten]

/-- What is written is read back. -/
theorem ofJson?_toJson (defaults : List (String × Json)) [LawfulCodec defaults α] (a : α) :
    ofJson? (toJson a) = some a :=
  ofJson?_eq (Loosened.same (toJson a) : Loosened defaults _ _)

/-- Different values are written differently. -/
theorem eq_of_toJson_eq (defaults : List (String × Json)) [LawfulCodec defaults α] {a b : α}
    (h : toJson a = toJson b) : a = b := by
  have hsome := ofJson?_toJson defaults a
  rw [h, ofJson?_toJson defaults b] at hsome
  exact (Option.some.inj hsome).symm

/-- A list is read item by item. -/
instance [LawfulCodec defaults α] : LawfulCodec defaults (List α) where
  ofJson?_eq {items j} h := by
    have hitems : ∀ {items : List α} {js : List Json},
        List.Forall₂ (Loosened defaults) (items.map toJson) js →
          js.mapM ofJson? = some items := by
      intro items js h
      rw [List.forall₂_map_left_iff] at h
      induction h with
      | nil => rfl
      | cons hitem _ ih => simp [ofJson?_eq hitem, ih]
    cases h with
    | same => exact hitems (List.forall₂_same.2 fun item _ => .same item)
    | list h => exact hitems h

end LawfulCodec

namespace Json.Found

variable {defaults : List (String × Json)} {α : Type} [JsonCodec α] [LawfulCodec defaults α]
  {name : String} {a : α} {found : Option Json}

/-- A field that has to be given reads as what was written. -/
theorem required?_eq (h : Found defaults (Loosened defaults) (name, toJson a) found)
    (hname : defaults.lookup name = none) : required? found = some a := by
  cases h with
  | given hvalue => exact LawfulCodec.ofJson?_eq hvalue
  | missing hdefault => simp [hname] at hdefault

/-- A field that has a default reads as what was written, the default being what its
absence stands for. -/
theorem fieldD?_eq {fallback : α}
    (h : Found defaults (Loosened defaults) (name, toJson a) found)
    (hname : defaults.lookup name = some (toJson fallback)) :
    fieldD? fallback found = some a := by
  cases h with
  | given hvalue => exact LawfulCodec.ofJson?_eq hvalue
  | missing hdefault =>
    have heq : toJson fallback = toJson a := Option.some.inj (hname.symm.trans hdefault)
    exact congrArg some (LawfulCodec.eq_of_toJson_eq defaults heq)

end Json.Found

end NetworkSelection

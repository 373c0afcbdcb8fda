import NetworkSelection.MacAddress
import NetworkSelection.Proofs.Hexadecimal
import Mathlib.Data.List.Forall2

/-!
# The grammar of MAC addresses

An address is written as six parts with colons between them, each part spelling one octet.
Every text has its parts, since a text is divided at all its colons: a text without a colon has
itself as its only part, a colon at an end or beside another one makes a part that is empty.

Only a text of six parts is looked at part by part, and the first part that spells no octet is
the one that is named.

* `MacAddress.Parted`: the parts of a text.
* `MacAddress.octetsOf`: reading part by part, with `MacAddress.octetsOf_eq_ok_iff` and
  `MacAddress.octetsOf_eq_error_iff`.
* `MacAddress.parse_cases`: a text of six parts is read so, any other one is refused.
* `MacAddress.parse_grammar`: what every text is read as.
-/

namespace NetworkSelection

/-! ## Splitting -/

section splitting

variable {α : Type}

/-- A list is split into one part more than it has separators. -/
theorem length_splitOn [BEq α] (a : α) (l : List α) :
    (l.splitOn a).length = l.count a + 1 := by
  induction l with
  | nil => rfl
  | cons x rest ih =>
    rw [List.splitOn_cons_eq_if_modifyHead, List.count_cons]
    split
    · rw [List.length_cons, ih]
    · rw [List.length_modifyHead, ih, Nat.add_zero]

/-- No separator is left in a part. -/
theorem notMem_of_mem_splitOn [BEq α] [LawfulBEq α] {a : α} {l part : List α}
    (h : part ∈ l.splitOn a) : a ∉ part := by
  induction l generalizing part with
  | nil =>
    obtain rfl : part = [] := by simpa using h
    exact List.not_mem_nil
  | cons x rest ih =>
    rw [List.splitOn_cons_eq_if_modifyHead] at h
    obtain ⟨first, more, hparts⟩ := List.exists_cons_of_ne_nil (List.splitOn_ne_nil a rest)
    rw [hparts] at h ih
    split at h
    · rcases List.mem_cons.mp h with rfl | hrest
      · exact List.not_mem_nil
      · exact ih hrest
    · next hx =>
      rw [List.modifyHead_cons] at h
      rcases List.mem_cons.mp h with rfl | hmore
      · rw [List.mem_cons, not_or]
        exact ⟨fun ha => hx (by simp [ha]), ih List.mem_cons_self⟩
      · exact ih (List.mem_cons_of_mem _ hmore)

/-- A list may be split before or after its members are changed, if separators stay what they
are and nothing else becomes one. -/
theorem splitOn_map [BEq α] [LawfulBEq α] {f : α → α} {a : α}
    (h : ∀ x, f x = a ↔ x = a) (l : List α) :
    (l.map f).splitOn a = (l.splitOn a).map (List.map f) := by
  induction l with
  | nil => rfl
  | cons x rest ih =>
    have hx : (f x == a) = (x == a) := by
      rw [Bool.eq_iff_iff, beq_iff_eq, beq_iff_eq]
      exact h x
    rw [List.map_cons, List.splitOn_cons_eq_if_modifyHead, List.splitOn_cons_eq_if_modifyHead,
      ih, hx]
    split
    · rfl
    · cases rest.splitOn a <;> rfl

end splitting

namespace MacAddress

/-! ## Parts between colons -/

/-- The text consists of these parts, with colons between them and none inside of them. -/
structure Parted (s : String) (parts : List String) : Prop where
  text : s = ":".intercalate parts
  colon_notMem : ∀ part ∈ parts, ':' ∉ part.toList
  ne_nil : parts ≠ []

/-- The parts of a text are what is left of it when it is split at its colons. -/
theorem parted_iff {s : String} {parts : List String} :
    Parted s parts ↔ s.toList.splitOn ':' = parts.map String.toList := by
  have htext : s = ":".intercalate parts ↔
      s.toList = [':'].intercalate (parts.map String.toList) := by
    rw [← String.toList_inj, String.toList_intercalate]
    rfl
  constructor
  · intro h
    rw [htext.mp h.text]
    refine List.splitOn_intercalate ':' (fun part hpart => ?_) (by simpa using h.ne_nil)
    obtain ⟨part, hmem, rfl⟩ := List.mem_map.mp hpart
    exact h.colon_notMem part hmem
  · intro h
    refine ⟨?_, fun part hpart => ?_, ?_⟩
    · rw [htext, ← h, List.intercalate_splitOn]
    · refine notMem_of_mem_splitOn (l := s.toList) ?_
      rw [h]
      exact List.mem_map_of_mem hpart
    · rintro rfl
      exact List.splitOn_ne_nil ':' s.toList h

/-- Every text has its parts. -/
theorem exists_parted (s : String) : ∃ parts, Parted s parts := by
  refine ⟨(s.toList.splitOn ':').map String.ofList, parted_iff.mpr ?_⟩
  rw [List.map_map]
  exact (List.map_congr_left fun part _ => String.toList_ofList).symm ▸ (List.map_id _).symm

namespace Parted

variable {s : String} {parts : List String}

theorem unique {parts' : List String} (h : Parted s parts) (h' : Parted s parts') :
    parts = parts' :=
  (List.map_inj_right fun _ _ => String.toList_inj.mp).mp
    ((parted_iff.mp h).symm.trans (parted_iff.mp h'))

/-- There is one part more than there are colons. -/
theorem length_eq (h : Parted s parts) : parts.length = s.toList.count ':' + 1 := by
  rw [← length_splitOn, parted_iff.mp h, List.length_map]

end Parted

/-! ## Reading part by part -/

/-- The octets that the parts spell, or what is wrong with the first part that spells none. -/
def octetsOf (parts : List String) : Except ParseError (List UInt8) :=
  parts.mapM fun part => octetOf part.toList

theorem octetOf_of_some {part : List Char} {byte : UInt8} (h : Hex.octet? part = some byte) :
    octetOf part = .ok byte := by
  rw [octetOf, h]

theorem octetOf_of_none {part : List Char} (h : Hex.octet? part = none) :
    octetOf part = .error (.invalidOctet (String.ofList part)) := by
  rw [octetOf, h]

@[simp] theorem octetsOf_nil : octetsOf [] = .ok [] := rfl

theorem octetsOf_cons_of_some {part : String} {byte : UInt8}
    (h : Hex.octet? part.toList = some byte) (rest : List String) :
    octetsOf (part :: rest) = (octetsOf rest).map (byte :: ·) := by
  rw [octetsOf, List.mapM_cons, octetOf_of_some h]
  show (octetsOf rest >>= fun bytes => pure (byte :: bytes)) = _
  cases octetsOf rest <;> rfl

theorem octetsOf_cons_of_none {part : String} (h : Hex.octet? part.toList = none)
    (rest : List String) : octetsOf (part :: rest) = .error (.invalidOctet part) := by
  rw [octetsOf, List.mapM_cons, octetOf_of_none h, String.ofList_toList]
  rfl

/-- All parts are read just if each of them spells an octet. -/
theorem octetsOf_eq_ok_iff {parts : List String} {bytes : List UInt8} :
    octetsOf parts = .ok bytes ↔ List.Forall₂ Hex.Spells parts bytes := by
  induction parts generalizing bytes with
  | nil => simp [eq_comm]
  | cons part rest ih =>
    rw [List.forall₂_cons_left_iff]
    simp only [Hex.spells_iff, ← ih]
    cases hpart : Hex.octet? part.toList with
    | none =>
      rw [octetsOf_cons_of_none hpart]
      simp
    | some byte =>
      rw [octetsOf_cons_of_some hpart]
      cases octetsOf rest with
      | error reason => simp [Except.map]
      | ok rest => simp [Except.map, eq_comm]

/-- Reading fails at the first part that spells no octet. -/
theorem octetsOf_eq_error_iff {parts : List String} {reason : ParseError} :
    octetsOf parts = .error reason ↔
      ∃ before part after, parts = before ++ part :: after ∧
        (∀ earlier ∈ before, ∃ byte, Hex.Spells earlier byte) ∧
        (¬ ∃ byte, Hex.Spells part byte) ∧ reason = .invalidOctet part := by
  induction parts with
  | nil => simp
  | cons part rest ih =>
    cases hpart : Hex.octet? part.toList with
    | none =>
      have hnot : ¬ ∃ byte, Hex.Spells part byte := fun h => Hex.exists_spells_iff.mp h hpart
      rw [octetsOf_cons_of_none hpart, Except.error.injEq]
      constructor
      · rintro rfl
        exact ⟨[], part, rest, rfl, by simp, hnot, rfl⟩
      · rintro ⟨before, first, after, hparts, hbefore, -, rfl⟩
        cases before with
        | nil => rw [(List.cons.inj hparts).1]
        | cons earlier before =>
          obtain rfl : part = earlier := (List.cons.inj hparts).1
          exact absurd (hbefore part List.mem_cons_self) hnot
    | some byte =>
      have hspells : Hex.Spells part byte := Hex.spells_iff.mpr hpart
      have hrest : octetsOf (part :: rest) = .error reason ↔ octetsOf rest = .error reason := by
        rw [octetsOf_cons_of_some hpart]
        cases octetsOf rest <;> simp [Except.map]
      rw [hrest, ih]
      constructor
      · rintro ⟨before, first, after, rfl, hbefore, hfirst⟩
        refine ⟨part :: before, first, after, rfl, ?_, hfirst⟩
        exact List.forall_mem_cons.mpr ⟨⟨byte, hspells⟩, hbefore⟩
      · rintro ⟨before, first, after, hparts, hbefore, hfirst, hreason⟩
        cases before with
        | nil =>
          obtain rfl : part = first := (List.cons.inj hparts).1
          exact absurd ⟨byte, hspells⟩ hfirst
        | cons earlier before =>
          exact ⟨before, first, after, (List.cons.inj hparts).2,
            (List.forall_mem_cons.mp hbefore).2, hfirst, hreason⟩

/-! ## What a text is read as -/

section outcome

variable {s : String} {parts : List String}

/-- A text of six parts is read part by part. -/
theorem octets_map_parse (h : Parted s parts) (hlength : parts.length = 6) :
    octets <$> parse s = octetsOf parts := by
  obtain ⟨a, b, c, d, e, f, rfl⟩ : ∃ a b c d e f, parts = [a, b, c, d, e, f] := by
    match parts, hlength with
    | [a, b, c, d, e, f], _ => exact ⟨a, b, c, d, e, f, rfl⟩
  have hne : ¬ s.isEmpty = true := by
    rw [String.isEmpty_iff]
    rintro rfl
    exact absurd h.length_eq (by simp)
  rw [parse, if_neg hne, parted_iff.mp h]
  simp only [List.map_cons, List.map_nil, octetsOf, List.mapM_cons, List.mapM_nil, map_bind,
    map_pure, bind_assoc, pure_bind]
  rfl

theorem parse_of_length_ne (h : Parted s parts) (hne : s ≠ "") (hlength : parts.length ≠ 6) :
    parse s = .error (.wrongOctetCount parts.length) := by
  rw [parse, if_neg (by rwa [String.isEmpty_iff]), parted_iff.mp h]
  split
  · next hparts =>
    have hsix := congrArg List.length hparts
    rw [List.length_map] at hsix
    exact absurd hsix hlength
  · rw [List.length_map]

/-- A text is empty, or it has a wrong number of parts, or it is read part by part. -/
theorem parse_cases (h : Parted s parts) :
    (s = "" ∧ parse s = .error .empty) ∨
      (s ≠ "" ∧ parts.length ≠ 6 ∧ parse s = .error (.wrongOctetCount parts.length)) ∨
      (s ≠ "" ∧ parts.length = 6 ∧ octets <$> parse s = octetsOf parts) := by
  by_cases hempty : s = ""
  · subst hempty
    exact .inl ⟨rfl, rfl⟩
  by_cases hlength : parts.length = 6
  · exact .inr (.inr ⟨hempty, hlength, octets_map_parse h hlength⟩)
  · exact .inr (.inl ⟨hempty, hlength, parse_of_length_ne h hempty hlength⟩)

theorem parse_eq_ok_iff_of_read (hread : octets <$> parse s = octetsOf parts) {m : MacAddress} :
    parse s = .ok m ↔ octetsOf parts = .ok m.octets := by
  rw [← hread]
  cases parse s with
  | error reason => simp [Functor.map, Except.map]
  | ok n =>
    simp only [Functor.map, Except.map, Except.ok.injEq]
    exact ⟨congrArg octets, octets_injective⟩

theorem parse_eq_error_iff_of_read (hread : octets <$> parse s = octetsOf parts)
    {reason : ParseError} : parse s = .error reason ↔ octetsOf parts = .error reason := by
  rw [← hread]
  cases parse s <;> simp [Functor.map, Except.map]

/-- **What is read as an address**: six parts that spell its octets. -/
theorem parse_eq_ok_iff {m : MacAddress} :
    parse s = .ok m ↔ ∃ parts, Parted s parts ∧ List.Forall₂ Hex.Spells parts m.octets := by
  obtain ⟨parts, h⟩ := exists_parted s
  have hparts : (∃ parts', Parted s parts' ∧ List.Forall₂ Hex.Spells parts' m.octets) ↔
      List.Forall₂ Hex.Spells parts m.octets :=
    ⟨fun ⟨_, h', hspells⟩ => h.unique h' ▸ hspells, fun hspells => ⟨parts, h, hspells⟩⟩
  rw [hparts]
  obtain ⟨rfl, hparse⟩ | ⟨-, hlength, hparse⟩ | ⟨-, -, hread⟩ := parse_cases h
  · rw [hparse]
    refine iff_of_false (by simp) fun hspells => ?_
    exact absurd (h.length_eq.symm.trans hspells.length_eq) (by simp [octets])
  · rw [hparse]
    exact iff_of_false (by simp) fun hspells => hlength hspells.length_eq
  · rw [parse_eq_ok_iff_of_read hread, octetsOf_eq_ok_iff]

theorem parse_eq_empty_iff : parse s = .error .empty ↔ s = "" := by
  obtain ⟨parts, h⟩ := exists_parted s
  obtain ⟨rfl, hparse⟩ | ⟨hne, -, hparse⟩ | ⟨hne, -, hread⟩ := parse_cases h
  · exact iff_of_true hparse rfl
  · exact iff_of_false (by simp [hparse]) hne
  · refine iff_of_false (fun hparse => ?_) hne
    rw [parse_eq_error_iff_of_read hread, octetsOf_eq_error_iff] at hparse
    simp at hparse

theorem parse_eq_wrongOctetCount_iff {n : Nat} :
    parse s = .error (.wrongOctetCount n) ↔ s ≠ "" ∧ s.toList.count ':' + 1 = n ∧ n ≠ 6 := by
  obtain ⟨parts, h⟩ := exists_parted s
  rw [← h.length_eq]
  obtain ⟨rfl, hparse⟩ | ⟨hne, hlength, hparse⟩ | ⟨-, hlength, hread⟩ := parse_cases h
  · simp [hparse]
  · rw [hparse, Except.error.injEq, ParseError.wrongOctetCount.injEq]
    constructor
    · rintro rfl
      exact ⟨hne, rfl, hlength⟩
    · exact fun hn => hn.2.1
  · refine iff_of_false (fun hparse => ?_) fun hn => hn.2.2 (hn.2.1.symm.trans hlength)
    rw [parse_eq_error_iff_of_read hread, octetsOf_eq_error_iff] at hparse
    simp at hparse

theorem parse_eq_invalidOctet_iff {part : String} :
    parse s = .error (.invalidOctet part) ↔
      s.toList.count ':' = 5 ∧ ∃ before after, Parted s (before ++ part :: after) ∧
        (∀ earlier ∈ before, ∃ byte, Hex.Spells earlier byte) ∧
        ¬ ∃ byte, Hex.Spells part byte := by
  obtain ⟨parts, h⟩ := exists_parted s
  have hcount := h.length_eq
  obtain ⟨rfl, hparse⟩ | ⟨-, hlength, hparse⟩ | ⟨-, hlength, hread⟩ := parse_cases h
  · rw [hparse]
    exact iff_of_false (by simp) fun hfive => absurd hfive.1 (by decide)
  · rw [hparse]
    exact iff_of_false (by simp) fun hfive => hlength (by rw [hcount, hfive.1])
  · rw [parse_eq_error_iff_of_read hread, octetsOf_eq_error_iff]
    constructor
    · rintro ⟨before, first, after, rfl, hbefore, hfirst, hreason⟩
      obtain rfl : part = first := ParseError.invalidOctet.inj hreason
      exact ⟨by omega, before, after, h, hbefore, hfirst⟩
    · rintro ⟨-, before, after, h', hbefore, hpart⟩
      exact ⟨before, part, after, h.unique h', hbefore, hpart, rfl⟩

end outcome

/-- **The grammar of addresses, and why a text is refused.**  The empty text is refused as such,
and any other text if its colons are not five.  Of six parts the first one that is not exactly
two hexadecimal digits is named.  A text without such faults denotes the octets that its parts
spell, in their order.  What a part spells can as well be told from its bytes: there have to be
two of them, each the code of a digit. -/
theorem parse_grammar (s : String) :
    (parse s = .error .empty ↔ s = "") ∧
      (∀ n, parse s = .error (.wrongOctetCount n) ↔
        s ≠ "" ∧ s.toList.count ':' + 1 = n ∧ n ≠ 6) ∧
      (∀ part, parse s = .error (.invalidOctet part) ↔
        s.toList.count ':' = 5 ∧ ∃ before after, Parted s (before ++ part :: after) ∧
          (∀ earlier ∈ before, ∃ byte, Hex.Spells earlier byte) ∧
          ¬ ∃ byte, Hex.Spells part byte) ∧
      (∀ m, parse s = .ok m ↔ ∃ parts, Parted s parts ∧ List.Forall₂ Hex.Spells parts m.octets) ∧
      ∀ part byte, Hex.Spells part byte ↔
        Hex.octetOfBytes? part.toUTF8.data.toList = some byte :=
  ⟨parse_eq_empty_iff, fun _ => parse_eq_wrongOctetCount_iff,
    fun _ => parse_eq_invalidOctet_iff, fun _ => parse_eq_ok_iff,
    fun _ _ => Hex.spells_iff_toUTF8⟩

/-- The last part has two bytes, but they are those of one letter. -/
example : parse "00:11:22:33:44:\u00e9" = .error (.invalidOctet "\u00e9") := by
  rfl

end MacAddress

end NetworkSelection

import NetworkSelection.Proofs.AddressGrammar

/-!
# The text of a MAC address

Of all the texts that denote an address one is written: the one in lower case.  The others differ
from it in the case of their letters and in nothing else, so a text denotes an address just if its
lower-case form is the text of that address.

The digits of a text have fixed places, and they are characters in the order of their values.
Sorting addresses is therefore sorting their texts.

* `MacAddress.parse_eq_ok_iff_toLower`: which texts denote an address.
* `MacAddress.parse_toString`: the text of an address is one of them.
* `MacAddress.toString_lt_toString_iff`: the order of the texts.
* `MacAddress.text_canonical`: these together.
-/

namespace NetworkSelection

/-! ## Lower case -/

/-- Only a colon has the lower-case form of a colon. -/
theorem toLower_eq_colon_iff (c : Char) : c.toLower = ':' ↔ c = ':' := by
  by_cases h : c.toNat < 128
  · exact Hex.of_ascii h (by decide)
  · rw [Hex.toLower_of_not_ascii (Nat.le_of_not_lt h)]

namespace MacAddress

/-- The parts of a text in lower case. -/
theorem Parted.toLower {s : String} {parts : List String} (h : Parted s parts) :
    Parted s.toLower (parts.map String.toLower) := by
  have hlower : String.toList ∘ String.toLower = List.map Char.toLower ∘ String.toList :=
    funext Hex.toList_toLower
  rw [parted_iff, Hex.toList_toLower, splitOn_map toLower_eq_colon_iff, parted_iff.mp h,
    List.map_map, List.map_map, hlower]

/-- The parts of the text of an address. -/
theorem parted_toString (m : MacAddress) :
    Parted (toString m) (m.octets.map fun byte => String.ofList (Hex.octet byte)) := by
  have htext : (toString m).toList = m.toChars := String.toList_ofList
  have hparts : (m.octets.map fun byte => String.ofList (Hex.octet byte)).map String.toList =
      m.octets.map Hex.octet := by
    rw [List.map_map]
    exact List.map_congr_left fun byte _ => String.toList_ofList
  rw [parted_iff, htext, hparts]
  refine List.splitOn_intercalate ':' (fun part hpart => ?_) (by simp [octets])
  obtain ⟨byte, -, rfl⟩ := List.mem_map.mp hpart
  exact Hex.colon_notMem_octet byte

/-- **The text of an address denotes that address.** -/
theorem parse_toString (m : MacAddress) : parse (toString m) = .ok m := by
  refine parse_eq_ok_iff.mpr ⟨_, m.parted_toString, ?_⟩
  rw [List.forall₂_map_left_iff, List.forall₂_same]
  exact fun byte _ => Hex.spells_octet byte

/-- Parts spell octets just if these are written as the parts in lower case. -/
theorem forall₂_spells_iff {parts : List String} {bytes : List UInt8} :
    List.Forall₂ Hex.Spells parts bytes ↔
      parts.map String.toLower = bytes.map fun byte => String.ofList (Hex.octet byte) := by
  rw [← List.forall₂_eq_eq_eq, List.forall₂_map_left_iff, List.forall₂_map_right_iff]
  exact ⟨fun h => h.imp fun _ _ => Hex.spells_iff_toLower.mp,
    fun h => h.imp fun _ _ => Hex.spells_iff_toLower.mpr⟩

/-- **Which texts denote an address**: those whose lower-case form is its text. -/
theorem parse_eq_ok_iff_toLower {s : String} {m : MacAddress} :
    parse s = .ok m ↔ s.toLower = toString m := by
  rw [parse_eq_ok_iff]
  constructor
  · rintro ⟨parts, h, hspells⟩
    rw [h.toLower.text, forall₂_spells_iff.mp hspells, ← m.parted_toString.text]
  · intro hlower
    obtain ⟨parts, h⟩ := exists_parted s
    exact ⟨parts, h, forall₂_spells_iff.mpr ((hlower ▸ h.toLower).unique m.parted_toString)⟩

/-- The written form of what a text denotes, or why it denotes nothing. -/
def respell (s : String) : Except ParseError String :=
  (parse s).map toString

theorem respell_eq_ok_iff {s t : String} :
    respell s = .ok t ↔ ∃ m, parse s = .ok m ∧ toString m = t := by
  unfold respell
  cases parse s <;> simp [Except.map]

/-! ## Order -/

/-- Octets with colons between them. -/
def joined (bytes : List UInt8) : List Char :=
  [':'].intercalate (bytes.map Hex.octet)

theorem joined_cons_cons (x y : UInt8) (rest : List UInt8) :
    joined (x :: y :: rest) = Hex.octet x ++ ':' :: joined (y :: rest) := by
  simp [joined]

theorem compare_cons_eq_lt_iff {x y : UInt8} {rest rest' : List UInt8} :
    compare (x :: rest) (y :: rest') = .lt ↔ x < y ∨ x = y ∧ compare rest rest' = .lt := by
  have hcons : compare (x :: rest) (y :: rest') = (compare x y).then (compare rest rest') :=
    List.compareLex_cons_cons
  rw [hcons, Ordering.then_eq_lt, Std.LawfulEqCmp.compare_eq_iff_eq]
  exact or_congr_left compareOfLessAndEq_eq_lt

/-- Texts of equally many octets are ordered as the octets are. -/
theorem joined_lt_joined_iff : ∀ {bytes bytes' : List UInt8}, bytes.length = bytes'.length →
    (joined bytes < joined bytes' ↔ compare bytes bytes' = .lt)
  | [], [], _ => by decide
  | [x], [y], _ => by
    have hoctets := Hex.octet_append_lt_iff (x := x) (y := y) (s := []) (t := [])
    rw [List.append_nil, List.append_nil] at hoctets
    rw [compare_cons_eq_lt_iff]
    exact hoctets.trans (or_congr_right (and_congr_right fun _ => by decide))
  | x :: x' :: rest, y :: y' :: rest', h => by
    have ih := joined_lt_joined_iff (Nat.succ.inj h : (x' :: rest).length = (y' :: rest').length)
    rw [joined_cons_cons, joined_cons_cons, Hex.octet_append_lt_iff, List.cons_lt_cons_iff, ih,
      compare_cons_eq_lt_iff (x := x)]
    simp

/-- **Addresses are ordered as their texts are.** -/
theorem toString_lt_toString_iff {m n : MacAddress} :
    toString m < toString n ↔ compare m n = .lt := by
  have htext (m : MacAddress) : (toString m).toList = joined m.octets := String.toList_ofList
  show (toString m).toList < (toString n).toList ↔ compare m.octets n.octets = .lt
  rw [htext, htext]
  exact joined_lt_joined_iff rfl

/-! ## All together -/

/-- **One text for each address.**  What is written denotes the address again; whatever else
denotes it is written back in lower case, the letters of ASCII being the only ones that change.
So a text that was written back stays as it is, texts denote one address just if they agree up to
the case of their letters, and addresses are ordered as their texts are by code point. -/
theorem text_canonical :
    (∀ m : MacAddress, parse (toString m) = .ok m) ∧
      (∀ s m, parse s = .ok m → toString m = s.toLower) ∧
      (∀ s t, respell s = .ok t → respell t = .ok t) ∧
      (∀ s t m n, parse s = .ok m → parse t = .ok n → (m = n ↔ s.toLower = t.toLower)) ∧
      ∀ m n : MacAddress, compare m n = .lt ↔ toString m < toString n := by
  refine ⟨parse_toString, fun s m h => (parse_eq_ok_iff_toLower.mp h).symm, ?_, ?_,
    fun m n => toString_lt_toString_iff.symm⟩
  · intro s t h
    obtain ⟨m, -, rfl⟩ := respell_eq_ok_iff.mp h
    exact respell_eq_ok_iff.mpr ⟨m, m.parse_toString, rfl⟩
  · intro s t m n hs ht
    rw [parse_eq_ok_iff_toLower.mp hs, parse_eq_ok_iff_toLower.mp ht]
    constructor
    · rintro rfl
      rfl
    · intro htext
      exact Except.ok.inj ((htext ▸ m.parse_toString).symm.trans n.parse_toString)

/-- Two spellings of one address. -/
theorem text_canonical_two_spellings :
    let s := "AA:bb:0C:dd:Ee:01"
    let t := "aa:BB:0c:DD:eE:01"
    let m : MacAddress := ⟨0xaa, 0xbb, 0x0c, 0xdd, 0xee, 0x01⟩
    parse s = .ok m ∧ parse t = .ok m ∧ toString m = s.toLower ∧
      respell (toString m) = .ok (toString m) ∧ s.toLower = t.toLower := by
  intro s t m
  have hs : parse s = .ok m := by decide
  have ht : parse t = .ok m := by decide
  obtain ⟨-, hlower, hrespell, hcase, -⟩ := text_canonical
  have hwritten : respell s = .ok (toString m) := by rw [respell, hs]; rfl
  exact ⟨hs, ht, hlower s m hs, hrespell s _ hwritten, (hcase s t m m hs ht).mp rfl⟩

end MacAddress

end NetworkSelection

import NetworkSelection.Key
import NetworkSelection.Proofs.AddressText
import Mathlib.Data.List.Nodup
import Std.Data.String.ToInt

/-!
# The text of a key

The text of a key begins with an SSID between plain quotation marks.  The SSID may contain anything,
quotation marks and all the separators included, and it may itself look like the text of a key.  So
the text of a key cannot be read from the left: where the SSID ends is not to be seen from there.

It can be read from the right.  What stands there is made of labels, digits and colons, and none of
it contains the separator that stands before it: no label has a colon or a slash, no number has a
`#`, and no address has an `@`.  The last separator of each kind is therefore the right one, and
what is left over in the end is the SSID with its two quotation marks.

* `append_cons_inj`: texts that are cut at the last separator.
* `Security.toString_inj`, `NetworkId.toString_inj`, `MacAddress.toString_inj`, `Ssid.toString_inj`,
  `NetworkIdentity.toString_inj`: the texts of the parts.
* `Key.toString_eq_iff`: the text of a key.
-/

namespace NetworkSelection

/-! ## Reading from the right -/

/-- Nothing can be inserted before a separator that is the last one. -/
theorem eq_nil_of_cons_eq_append_cons {α : Type} {a : α} {u v w : List α} (hu : a ∉ u)
    (h : a :: u = w ++ a :: v) : w = [] := by
  cases w with
  | nil => rfl
  | cons b w =>
    obtain ⟨-, rfl⟩ := List.cons.inj h
    exact absurd (List.mem_append_right w List.mem_cons_self) hu

/-- **Cutting at the last separator.**  What stands before it may contain the separator again. -/
theorem append_cons_inj {α : Type} {a : α} {s t u v : List α} (hu : a ∉ u) (hv : a ∉ v) :
    s ++ a :: u = t ++ a :: v ↔ s = t ∧ u = v := by
  constructor
  · intro h
    rcases List.append_eq_append_iff.mp h with ⟨w, rfl, hcut⟩ | ⟨w, rfl, hcut⟩
    · obtain rfl := eq_nil_of_cons_eq_append_cons hu hcut
      exact ⟨(List.append_nil s).symm, (List.cons.inj hcut).2⟩
    · obtain rfl := eq_nil_of_cons_eq_append_cons hv hcut
      exact ⟨List.append_nil t, (List.cons.inj hcut).2.symm⟩
  · rintro ⟨rfl, rfl⟩
    rfl

/-- The same for texts. -/
theorem append_separator_append_inj {separator : String} {c : Char}
    (hseparator : separator.toList = [c]) {s t u v : String} (hu : c ∉ u.toList)
    (hv : c ∉ v.toList) : s ++ separator ++ u = t ++ separator ++ v ↔ s = t ∧ u = v := by
  simp only [← String.toList_inj, String.toList_append, hseparator, List.append_assoc,
    List.singleton_append]
  exact append_cons_inj hu hv

/-! ## The parts -/

namespace Security

theorem slash_notMem_toString (s : Security) : '/' ∉ (toString s).toList := by
  cases s <;> decide

theorem colon_notMem_toString (s : Security) : ':' ∉ (toString s).toList := by
  cases s <;> decide

/-- No two security types have one label. -/
theorem toString_inj {s t : Security} : toString s = toString t ↔ s = t := by
  have hlabels : (all.map label).Nodup := by decide
  exact ⟨List.inj_on_of_nodup_map hlabels s.mem_all t.mem_all, congrArg toString⟩

end Security

namespace NetworkId

/-- A number is a row of digits, perhaps with a sign before it. -/
theorem hash_notMem_toString (n : NetworkId) : '#' ∉ (toString n).toList := by
  have hdigits : ∀ k : Nat, '#' ∉ k.repr.toList := by
    intro k hmem
    rw [Nat.repr, String.toList_ofList] at hmem
    exact absurd (Nat.isDigit_of_mem_toDigits (by decide) (by decide) hmem) (by decide)
  show '#' ∉ (Int.repr n.id.toInt).toList
  cases n.id.toInt with
  | ofNat k => exact hdigits k
  | negSucc k =>
    rw [Int.repr, String.toList_append, List.mem_append, not_or]
    exact ⟨by decide, hdigits (k + 1)⟩

theorem toString_inj {m n : NetworkId} : toString m = toString n ↔ m = n := by
  obtain ⟨m⟩ := m
  obtain ⟨n⟩ := n
  show Int.repr m.toInt = Int.repr n.toInt ↔ _
  rw [Int.repr_inj, Int32.toInt_inj, mk.injEq]

end NetworkId

namespace MacAddress

/-- An address is written with digits and colons. -/
theorem at_notMem_toString (m : MacAddress) : '@' ∉ (toString m).toList := by
  have hoctet : ∀ byte : UInt8, '@' ∉ Hex.octet byte := Hex.notMem_octet (by decide)
  have htext : (toString m).toList = m.toChars := String.toList_ofList
  simp [htext, toChars, octets, hoctet]

theorem toString_inj {m n : MacAddress} : toString m = toString n ↔ m = n := by
  refine ⟨fun h => ?_, congrArg toString⟩
  have hparse := congrArg parse h
  rw [parse_toString, parse_toString] at hparse
  exact Except.ok.inj hparse

end MacAddress

/-- Whatever an SSID contains, it is shown between two quotation marks more. -/
theorem Ssid.toString_inj {s t : Ssid} : toString s = toString t ↔ s = t := by
  obtain ⟨s⟩ := s
  obtain ⟨t⟩ := t
  show "\"" ++ s ++ "\"" = "\"" ++ t ++ "\"" ↔ _
  rw [String.append_left_inj, String.append_right_inj, mk.injEq]

/-- The label stands behind the last slash. -/
theorem NetworkIdentity.toString_inj {m n : NetworkIdentity} : toString m = toString n ↔ m = n := by
  obtain ⟨s, x⟩ := m
  obtain ⟨t, y⟩ := n
  show toString s ++ "/" ++ toString x = toString t ++ "/" ++ toString y ↔ _
  rw [append_separator_append_inj rfl x.slash_notMem_toString y.slash_notMem_toString,
    Ssid.toString_inj, Security.toString_inj, mk.injEq]

/-! ## The whole -/

namespace Key

/-- **The text of a key identifies the key**, whatever its SSID is. -/
theorem toString_eq_iff {k l : Key} : toString k = toString l ↔ k = l := by
  obtain ⟨m, a, i, x⟩ := k
  obtain ⟨n, b, j, y⟩ := l
  show toString m ++ "@" ++ toString a ++ "#" ++ toString i ++ ":" ++ toString x =
    toString n ++ "@" ++ toString b ++ "#" ++ toString j ++ ":" ++ toString y ↔ _
  rw [append_separator_append_inj rfl x.colon_notMem_toString y.colon_notMem_toString,
    append_separator_append_inj rfl i.hash_notMem_toString j.hash_notMem_toString,
    append_separator_append_inj rfl a.at_notMem_toString b.at_notMem_toString,
    NetworkIdentity.toString_inj, MacAddress.toString_inj, NetworkId.toString_inj,
    Security.toString_inj, mk.injEq, and_assoc, and_assoc]

/-- The text of one key may begin with the whole text of another one. -/
example :
    let k : Key := .ofIdentity ⟨⟨"x"⟩, .psk⟩ .zero ⟨-1⟩
    let l : Key := .ofIdentity ⟨⟨"x\"/PSK@00:00:00:00:00:00#-1:PSK"⟩, .sae⟩ .zero ⟨3⟩
    (toString k).toList <+: (toString l).toList := by
  decide

end Key

end NetworkSelection

import NetworkSelection.Text.Printable
import NetworkSelection.Text.Combining

/-!
# Quoted text

Fault messages show text that came from outside: a driver's spelling of an
address, say.  Such text may hold anything, so it is shown between double quotes
with every character that would mislead a reader spelled out.  A quotation mark
and a backslash get a backslash; the null character, tab, line feed and carriage
return get a letter; whatever is not printable, and whatever would combine with
the character before it, is given by its code point in hexadecimal.  All other
characters stand for themselves, the apostrophe included.
-/

namespace NetworkSelection

namespace Text

/-- How one character is spelled between double quotes. -/
def spell (c : Char) : List Char :=
  if c = '"' then ['\\', '"']
  else if c = '\\' then ['\\', '\\']
  else if c = '\x00' then ['\\', '0']
  else if c = '\t' then ['\\', 't']
  else if c = '\n' then ['\\', 'n']
  else if c = '\r' then ['\\', 'r']
  else if isPrintable c && !isCombining c then [c]
  else ['\\', 'u', '\x7b'] ++ Nat.toDigits 16 c.toNat ++ ['\x7d']

/-- The text between double quotes, each character spelled by `spell`. -/
def quoted (s : String) : String :=
  String.ofList ('"' :: s.toList.flatMap spell ++ ['"'])

/-- Letters, digits and other plain marks stand for themselves. -/
theorem spell_of_printable {c : Char} (hq : c ≠ '"') (hb : c ≠ '\\')
    (hp : isPrintable c = true) (hc : isCombining c = false)
    (h0 : c ≠ '\x00') (ht : c ≠ '\t') (hn : c ≠ '\n') (hr : c ≠ '\r') : spell c = [c] := by
  simp [spell, hq, hb, h0, ht, hn, hr, hp, hc]

end Text

end NetworkSelection

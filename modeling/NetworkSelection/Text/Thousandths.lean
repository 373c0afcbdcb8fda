/-!
# Thousandths

A weight between zero and one is shown to three places and no more digits than it
needs: `0.123`, `0.5`, `1`, `0`.
-/

namespace NetworkSelection

namespace Text

/-- The places after the point, trailing zeros left out. -/
def places (n : Nat) : List Char :=
  let digits := [n / 100 % 10, n / 10 % 10, n % 10].map Nat.digitChar
  (digits.reverse.dropWhile (· = '0')).reverse

/-- A number of thousandths as a decimal fraction without needless zeros. -/
def thousandths (n : Nat) : String :=
  let whole := Nat.repr (n / 1000)
  match places (n % 1000) with
  | [] => whole
  | digits => whole ++ "." ++ String.ofList digits

end Text

end NetworkSelection

import NetworkSelection.Candidate.Basic

/-!
# Choosing a candidate

A pool does no ranking of its own.  A scorer gets all its candidates, in the order
of their keys, and names at most one.  With the choice come a value, on a scale of
the scorer's own, and an estimate of its error on the same scale; of a real choice
the error is positive.

Two scorers are given here.  Both let the last of several equally good candidates
win, which is the one with the greatest key.
-/

namespace NetworkSelection

/-- A choice, or the statement that there is none. -/
structure Choice where
  value : Float
  err : Float
  key : Option Key := none
  /-- The user's wish decided, not a computed score. -/
  userOverride : Bool := false
  deriving DecidableEq

namespace Choice

/-- No choice: the worst value, with boundless error. -/
def none : Choice where
  value := -1.0 / 0.0
  err := 1.0 / 0.0

/-- Whether no candidate is named. -/
def isNone (choice : Choice) : Bool :=
  choice.key.isNone

/-- Whether a candidate is named while the error estimate is no positive number. -/
def isDubious (choice : Choice) : Bool :=
  choice.key.isSome && (choice.err.isNaN || choice.err ≤ 0)

end Choice

/-- A way of choosing. -/
structure Scorer (η : Type) where
  /-- The scorer's name and version. -/
  name : String
  /-- The choice among the candidates, if one is acceptable. -/
  score : List (Candidate η) → Option Choice

namespace Scorer

variable {η α : Type}

/-- The last of the items for which no other item is greater. -/
def lastMaximum (atMost : α → α → Bool) : List α → Option α
  | [] => none
  | a :: rest => some (rest.foldl (fun best x => if atMost best x then x else best) a)

/-- Chooses the highest predicted throughput, the link's own or the joint one. -/
def throughput : Scorer η where
  name := "throughput-v1"
  score candidates :=
    let mbps (c : Candidate η) := max c.multiLinkMbps c.mbps
    (lastMaximum (fun c d => mbps c ≤ mbps d) candidates).map fun c =>
      { value := (mbps c).toFloat, err := 1, key := some c.key }

/-- The place of a double in the total order of doubles: the order of numbers, with
negative zero below zero and the values that are not numbers at the two ends. -/
def totalRank (x : Float) : Int :=
  let bits : Int := x.toBits.toNat
  if bits < 9223372036854775808 then bits else 9223372036854775807 - bits

/-- Honours the most recent of the user's own selections, and declines if there is
none. -/
def userChoice : Scorer η where
  name := "user-choice-v1"
  score candidates :=
    let chosen := candidates.filter (·.userSelected)
    (lastMaximum (fun c d => totalRank c.weight ≤ totalRank d.weight) chosen).map fun c =>
      { value := c.weight, err := 0.1, key := some c.key, userOverride := true }

/-- Finds no candidate acceptable. -/
def decline : Scorer η where
  name := "fixed"
  score _ := none

/-- Gives the same answer whatever the candidates are. -/
def always (choice : Choice) : Scorer η where
  name := "fixed"
  score _ := some choice

end Scorer

end NetworkSelection

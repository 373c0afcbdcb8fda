import NetworkSelection.Fault

/-!
# The fault ledger

Every fault of a pool is recorded in its ledger, which keeps the last one and
counts them all, up to the largest count a word can hold.  A picky ledger hands
each fault it records back to the caller; a lenient one keeps it to itself.
-/

namespace NetworkSelection

/-- The last fault and how many there were. -/
structure Ledger where
  picky : Bool := false
  last : Option Fault := none
  count : UInt32 := 0
  deriving DecidableEq

namespace Ledger

/-- One more, up to the largest word. -/
def oneMore (n : UInt32) : UInt32 :=
  if n = 4294967295 then n else n + 1

/-- Counting stops at the largest word. -/
theorem toNat_oneMore (n : UInt32) : (oneMore n).toNat = min (n.toNat + 1) 4294967295 := by
  have hn : n.toNat < 4294967296 := n.toNat_lt
  unfold oneMore
  split
  · next h => subst h; decide
  · next h =>
    have : n.toNat ≠ 4294967295 := fun e => h (UInt32.toNat_inj.mp e)
    rw [UInt32.toNat_add]
    simp only [UInt32.reduceToNat]
    omega

/-- The ledger with one more fault in it. -/
def record (fault : Fault) (ledger : Ledger) : Ledger :=
  { ledger with last := some fault, count := oneMore ledger.count }

/-- What the caller hears of a fault: the fault itself from a picky ledger, and from
a lenient one the given empty answer. -/
def answer {α : Type} (ledger : Ledger) (fault : Fault) (empty : α) : Except Fault α :=
  if ledger.picky then .error fault else .ok empty

/-- What is done with an answer leaves a fault alone. -/
theorem map_answer {α β : Type} (g : α → β) (ledger : Ledger) (fault : Fault) (empty : α) :
    (ledger.answer fault empty).map g = ledger.answer fault (g empty) := by
  unfold answer
  split <;> rfl

/-- The ledger without its faults; it stays as picky as it was. -/
def clear (ledger : Ledger) : Ledger :=
  { ledger with last := none, count := 0 }

end Ledger

end NetworkSelection

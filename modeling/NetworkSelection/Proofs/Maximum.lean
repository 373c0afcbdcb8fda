import NetworkSelection.Choice
import Mathlib.Data.List.Induction
import Mathlib.Order.Lattice

/-!
# The last of the greatest

Whoever chooses here lets the last of several equally good items win: scorers do, and so
does the competition for a place, in which a later offer of equal priority replaces the
earlier one.  Items are compared by a measure, and the winner is told from two things: no
item measures more than it, and it is the last one that measures as much.

The order of the items therefore matters only among items that measure the same
(`Scorer.lastMaximum_congr`).

* `Scorer.lastMaximum_concat`, `Scorer.lastMaximum_append`: the winner so far stands for the
  items that were beaten.
* `Scorer.lastMaximum_spec`: what the winner is.
-/

namespace NetworkSelection

namespace Scorer

variable {α β : Type}

section fold

variable (atMost : α → α → Bool)

@[simp] theorem lastMaximum_nil : lastMaximum atMost [] = none := rfl

@[simp] theorem lastMaximum_singleton (x : α) : lastMaximum atMost [x] = some x := rfl

@[simp] theorem lastMaximum_toList (x? : Option α) : lastMaximum atMost x?.toList = x? := by
  cases x? <;> rfl

/-- One more item wins if the winner so far is at most as great. -/
theorem lastMaximum_concat (l : List α) (x : α) :
    lastMaximum atMost (l ++ [x]) =
      match lastMaximum atMost l with
      | none => some x
      | some best => some (if atMost best x then x else best) := by
  cases l with
  | nil => rfl
  | cons a rest =>
    rw [List.cons_append, lastMaximum, List.foldl_append]
    rfl

/-- The items that were beaten play no role any more. -/
theorem lastMaximum_append (l rest : List α) :
    lastMaximum atMost ((lastMaximum atMost l).toList ++ rest) =
      lastMaximum atMost (l ++ rest) := by
  cases l with
  | nil => rfl
  | cons a l =>
    rw [List.cons_append, lastMaximum, lastMaximum, List.foldl_append]
    rfl

/-- Items may be compared by what is made of them, before or after it is made. -/
theorem lastMaximum_map (f : β → α) (l : List β) :
    lastMaximum atMost (l.map f) = (lastMaximum (fun a b => atMost (f a) (f b)) l).map f := by
  induction l using List.reverseRecOn with
  | nil => rfl
  | append_singleton l x ih =>
    rw [List.map_append, List.map_singleton, lastMaximum_concat, lastMaximum_concat, ih]
    cases lastMaximum (fun a b => atMost (f a) (f b)) l with
    | none => rfl
    | some best => exact congrArg some (apply_ite f _ x best).symm

theorem lastMaximum_eq_none_iff {l : List α} : lastMaximum atMost l = none ↔ l = [] := by
  cases l <;> simp [lastMaximum]

end fold

section measure

variable [LinearOrder β] {measure : α → β} {atMost : α → α → Bool}

/-- **The winner is the last of the greatest.** -/
theorem lastMaximum_spec (h : ∀ a b, atMost a b = true ↔ measure a ≤ measure b) {l : List α}
    {m : α} (hm : lastMaximum atMost l = some m) :
    (∀ a ∈ l, measure a ≤ measure m) ∧
      (l.filter fun a => measure a = measure m).getLast? = some m := by
  induction l using List.reverseRecOn generalizing m with
  | nil => exact absurd hm (by simp)
  | append_singleton l x ih =>
    rw [lastMaximum_concat] at hm
    cases hbest : lastMaximum atMost l with
    | none =>
      rw [hbest] at hm
      obtain rfl : x = m := Option.some.inj hm
      obtain rfl : l = [] := (lastMaximum_eq_none_iff atMost).mp hbest
      simp
    | some best =>
      rw [hbest] at hm
      obtain ⟨hle, hlast⟩ := ih hbest
      by_cases hx : measure best ≤ measure x
      · -- the new item wins, and is itself the last one
        obtain rfl : x = m := by simpa [(h best x).mpr hx] using hm
        refine ⟨?_, by simp [List.filter_append]⟩
        rw [List.forall_mem_append, List.forall_mem_singleton]
        exact ⟨fun a ha => (hle a ha).trans hx, le_rfl⟩
      · -- the new item measures less, and so does not count among the greatest
        have hbeaten : atMost best x = false := Bool.eq_false_iff.mpr fun he => hx ((h best x).mp he)
        obtain rfl : best = m := by simpa [hbeaten] using hm
        have hlt : measure x < measure best := lt_of_not_ge hx
        refine ⟨?_, by simpa [List.filter_append, hlt.ne] using hlast⟩
        rw [List.forall_mem_append, List.forall_mem_singleton]
        exact ⟨hle, hlt.le⟩

variable (measure)

/-- **Only the order among equals matters.**  Two lists have the same winner if the items that
measure as much as any given one are the same in both, in the same order. -/
theorem lastMaximum_congr (h : ∀ a b, atMost a b = true ↔ measure a ≤ measure b)
    {l l' : List α}
    (hfilter : ∀ x, (l.filter fun a => measure a = measure x) =
      l'.filter fun a => measure a = measure x) :
    lastMaximum atMost l = lastMaximum atMost l' := by
  have hmem : ∀ a, a ∈ l ↔ a ∈ l' := by
    intro a
    have ha := congrArg (a ∈ ·) (hfilter a)
    simpa using ha
  cases hm : lastMaximum atMost l with
  | none =>
    obtain rfl : l = [] := (lastMaximum_eq_none_iff atMost).mp hm
    refine ((lastMaximum_eq_none_iff atMost).mpr ?_).symm
    exact List.eq_nil_iff_forall_not_mem.mpr fun a ha => absurd ((hmem a).mpr ha) List.not_mem_nil
  | some m =>
    obtain ⟨hle, hlast⟩ := lastMaximum_spec h hm
    cases hm' : lastMaximum atMost l' with
    | none =>
      obtain rfl : l' = [] := (lastMaximum_eq_none_iff atMost).mp hm'
      have hl : m ∈ l := (List.mem_filter.mp (List.mem_of_getLast? hlast)).1
      exact absurd ((hmem m).mp hl) List.not_mem_nil
    | some m' =>
      obtain ⟨hle', hlast'⟩ := lastMaximum_spec h hm'
      have hl : m ∈ l := (List.mem_filter.mp (List.mem_of_getLast? hlast)).1
      have hl' : m' ∈ l' := (List.mem_filter.mp (List.mem_of_getLast? hlast')).1
      -- each of the two winners is among the items of the other list
      have hmeasure : measure m = measure m' :=
        le_antisymm (hle' m ((hmem m).mp hl)) (hle m' ((hmem m').mpr hl'))
      rw [hfilter, hmeasure] at hlast
      exact hlast.symm.trans hlast'

end measure

end Scorer

end NetworkSelection

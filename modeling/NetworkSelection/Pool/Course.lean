import NetworkSelection.Pool.Command

/-!
# The course of a pool

A pool lives by one command after another, each met by the pool that the one before
left behind; a command that ends in a fault does not end its life.  A command together
with the pool and the shared things that it meets is a *moment*, and the *course* of a
pool remembers all its moments, so that a statement about a run can speak of what was
asked and answered before.

## What happens elsewhere

A pool does not own what it shares with others.  Between two of its commands other
pools may be at work and connection events may be recorded: they leave another history
behind, and they use up serial numbers.  What they do in detail does not matter here,
and so a course allows for every history and for any number of serial numbers.
-/

namespace NetworkSelection

variable {σ η : Type}

/-- A command, with the pool and the shared things that it meets. -/
structure Moment (σ η : Type) where
  pool : Pool σ η
  shared : Shared σ
  command : Command η

/-- What can come next in the life of a pool. -/
inductive Happening (σ η : Type) where
  /-- The pool is asked to carry out a command. -/
  | command (command : Command η)
  /-- Others leave this history behind and have used up so many serial numbers. -/
  | elsewhere (history : σ) (serials : Nat)

/-- A pool, what it shares, and the moments of its life so far. -/
structure Course (σ η : Type) where
  /-- The commands so far and what they met, the earliest first. -/
  past : List (Moment σ η) := []
  pool : Pool σ η
  shared : Shared σ

variable [BssidHandle η σ]

namespace Moment

/-- What the command brings. -/
def outcome (m : Moment σ η) : Outcome σ η (Except Fault Answer) :=
  m.pool.apply m.shared m.command

/-- Whether a candidate was taken in. -/
def admitted (m : Moment σ η) : Bool :=
  match m.outcome.answer with
  | .ok (.added taken) => taken
  | _ => false

/-- Whether a record was taken away at the caller's request. -/
def removed (m : Moment σ η) : Bool :=
  match m.outcome.answer with
  | .ok (.removed found) => found
  | _ => false

end Moment

namespace Course

/-- The beginning of a life. -/
def start (pool : Pool σ η) (shared : Shared σ) : Course σ η :=
  { pool, shared }

/-- What comes next. -/
def step (course : Course σ η) : Happening σ η → Course σ η
  | .command command =>
    let now : Moment σ η := { pool := course.pool, shared := course.shared, command }
    { past := course.past ++ [now], pool := now.outcome.pool, shared := now.outcome.shared }
  | .elsewhere history serials =>
    { course with
      shared := { history, nextSerial := course.shared.nextSerial + serials } }

/-- One thing after another. -/
def run (course : Course σ η) (happenings : List (Happening σ η)) : Course σ η :=
  happenings.foldl step course

@[simp] theorem run_nil (course : Course σ η) : course.run [] = course := rfl

@[simp] theorem run_cons (course : Course σ η) (h : Happening σ η)
    (rest : List (Happening σ η)) : course.run (h :: rest) = (course.step h).run rest := rfl

theorem run_append (course : Course σ η) (first rest : List (Happening σ η)) :
    course.run (first ++ rest) = (course.run first).run rest := by
  simp only [run, List.foldl_append]

/-- What holds at the beginning, and is kept by every command and by what happens
elsewhere, holds at the end of every course. -/
theorem run_induction {motive : Course σ η → Prop}
    (command : ∀ course c, motive course → motive (course.step (.command c)))
    (elsewhere : ∀ course history serials, motive course →
      motive (course.step (.elsewhere history serials)))
    {course : Course σ η} (start : motive course) (happenings : List (Happening σ η)) :
    motive (course.run happenings) := by
  induction happenings generalizing course with
  | nil => exact start
  | cons h rest ih =>
    rw [run_cons]
    cases h with
    | command c => exact ih (command course c start)
    | elsewhere history serials => exact ih (elsewhere course history serials start)

end Course

end NetworkSelection

import Remittance.Shape.Issue

/-! # Checking everything

A check either succeeds with a value or lists all issues it met. Two checks side by side both run,
and their issues follow one another in that order; so nothing that is wrong hides behind something
else. -/

namespace Remittance.Shape

/-- The outcome of a check. -/
inductive Checked (α : Type) where
  | good (value : α)
  | bad (issues : List Issue)
  deriving Repr

namespace Checked

variable {α β : Type}

/-- Applies a function to the value. -/
def map (f : α → β) : Checked α → Checked β
  | .good a => .good (f a)
  | .bad issues => .bad issues

/-- Applies a checked function to a checked value, keeping the issues of both. -/
def app : Checked (α → β) → Checked α → Checked β
  | .good f, .good a => .good (f a)
  | .good _, .bad issues => .bad issues
  | .bad issues, .good _ => .bad issues
  | .bad issues, .bad more => .bad (issues ++ more)

instance : Applicative Checked where
  pure := .good
  map := map
  seq f a := app f (a ())

/-- Goes on with a further check of the value. -/
def andThen (c : Checked α) (f : α → Checked β) : Checked β :=
  match c with
  | .good a => f a
  | .bad issues => .bad issues

/-- A failed check with a single issue at the value itself. -/
def fail (problem : Problem) (value : Json) : Checked α :=
  .bad [⟨[], problem, value⟩]

/-- The same check, seen from a value that `step` leads into. -/
def under (step : Step) : Checked α → Checked α
  | .good a => .good a
  | .bad issues => .bad (issues.map (Issue.under step))

/-- The value of a check without issues. -/
def value? : Checked α → Option α
  | .good a => some a
  | .bad _ => none

@[simp]
theorem map_eq_good_iff {f : α → β} {c : Checked α} {b : β} :
    (f <$> c) = .good b ↔ ∃ a, c = .good a ∧ f a = b := by
  cases c <;> simp [Functor.map, map]

@[simp]
theorem seq_eq_good_iff {f : Checked (α → β)} {c : Checked α} {b : β} :
    (f <*> c) = .good b ↔ ∃ g a, f = .good g ∧ c = .good a ∧ g a = b := by
  cases f <;> cases c <;> simp [Seq.seq, app]

@[simp]
theorem andThen_eq_good_iff {c : Checked α} {f : α → Checked β} {b : β} :
    c.andThen f = .good b ↔ ∃ a, c = .good a ∧ f a = .good b := by
  cases c <;> simp [andThen]

@[simp]
theorem under_eq_good_iff {step : Step} {c : Checked α} {a : α} :
    c.under step = .good a ↔ c = .good a := by
  cases c <;> simp [under]

end Checked

end Remittance.Shape

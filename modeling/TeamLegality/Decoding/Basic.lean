import TeamLegality.Decoding.Issue

/-!
# Decoded — the outcome of reading a typed value from a document

A document is accepted with a value, or rejected with all its issues in order, or reading is
aborted because a part had a shape that cannot even be normalised; aborting hides every issue.
Outcomes combine applicatively: the parts of a record are all read, and their issues add up.
-/

namespace TeamLegality

/-- The outcome of reading a value. -/
inductive Decoded (α : Type) where
  | accepted (value : α)
  | rejected (issues : List Issue)
  | aborted

namespace Decoded

variable {α β : Type}

/-- Combines a function and an argument: issues add up, and aborting wins. -/
def apply (f : Decoded (α → β)) (x : Decoded α) : Decoded β :=
  match f, x with
  | .accepted g, .accepted a => .accepted (g a)
  | .accepted _, .rejected e => .rejected e
  | .rejected e, .accepted _ => .rejected e
  | .rejected e, .rejected e' => .rejected (e ++ e')
  | .aborted, _ => .aborted
  | _, .aborted => .aborted

/-- Changes the value. -/
def map (g : α → β) : Decoded α → Decoded β
  | .accepted a => .accepted (g a)
  | .rejected e => .rejected e
  | .aborted => .aborted

instance : Functor Decoded where
  map := map

instance : Applicative Decoded where
  pure := .accepted
  seq f x := f.apply (x ())

/-- Rejects with a single fault at the document itself. -/
def fail (fault : Fault) : Decoded α := .rejected [⟨[], fault⟩]

/-- Reads on from an accepted value. -/
def andThen (x : Decoded α) (f : α → Decoded β) : Decoded β :=
  match x with
  | .accepted a => f a
  | .rejected e => .rejected e
  | .aborted => .aborted

/-- The outcome seen from one level further out. -/
def within (step : PathStep) : Decoded α → Decoded α
  | .accepted a => .accepted a
  | .rejected e => .rejected (e.map (Issue.within step))
  | .aborted => .aborted

/-- Both values, with all issues. -/
def both (x : Decoded α) (y : Decoded β) : Decoded (α × β) := (x.map Prod.mk).apply y

end Decoded

end TeamLegality

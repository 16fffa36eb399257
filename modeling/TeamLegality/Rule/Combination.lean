import TeamLegality.Rule.Target
import TeamLegality.Text.Identifier

/-!
# Combinations — bans of several targets together

A combination forbids its targets together, or more than so many of them, or else allows them: an
allowed combination shields from a later ban of the same combination.  Combinations are the same
when their rule texts have the same identifier.
-/

namespace TeamLegality

/-- What a combination says: forbidden beyond a limit, or allowed. -/
inductive BanLimit where
  | forbidden (limit : Int)
  | allowed
deriving DecidableEq, Repr

/-- A combination of targets, on one set or across a team. -/
structure Combination where
  rule : String
  source : String
  limit : BanLimit
  targets : List Target
deriving DecidableEq, Repr

namespace Combination

/-- What makes two combinations the same. -/
def key (c : Combination) : String := Text.toId c.rule

/-- Whether a combination is allowed rather than forbidden. -/
def isAllowed (c : Combination) : Bool := c.limit == .allowed

/-- The combination as inherited from a format: a source that is already known stays. -/
def inheritedFrom (name : String) (c : Combination) : Combination :=
  if c.source = "" then { c with source := name } else c

theorem inheritedFrom_eq (name : String) (c : Combination) :
    c.inheritedFrom name = { c with source := if c.source = "" then name else c.source } := by
  by_cases hsource : c.source = "" <;> simp [inheritedFrom, hsource]

/-- Combinations with one more: an allowed one of the same key stays, a forbidden one gives way
where it stands, and a new key goes to the end. -/
def merge (c : Combination) : List Combination → List Combination
  | [] => [c]
  | e :: rest =>
    if e.key = c.key then (if e.isAllowed then e :: rest else c :: rest)
    else e :: merge c rest

end Combination

end TeamLegality

import TeamLegality.Legality.SetChecks
import TeamLegality.RuleTable.CustomRules

/-!
# Set reports — a set checked against a format

A validator knows the formats, the legality checks that formats may declare, and the limits to
observe.  It reports on a set: the problems found, and the features that it was checked with.
-/

namespace TeamLegality

/-- What checks sets and teams. -/
structure Validator where
  registry : FormatRegistry
  hooks : Assoc String MoveCheck
  config : Config

/-- The outcome of checking a set. -/
structure SetReport where
  problems : List String
  features : List Target := []
  species : Option Species := none
  calls : List HookCall := []

namespace SetReport

/-- Whether no problem was found. -/
def isValid (r : SetReport) : Bool := r.problems.isEmpty

end SetReport

/-- The problem of a format that does not exist. -/
def unknownFormatProblem (f : Format) : String := s!"{f.name} is not a valid format."

namespace Validator

/-- The legality check of a table, which has to be registered. -/
def hookFor (v : Validator) (t : RuleTable) : Except Failure (Option MoveCheck) :=
  match t.hook with
  | none => .ok none
  | some hook =>
    match v.hooks.get? hook.name with
    | some check => .ok (some check)
    | none => .error (.of (.unknownHook hook.name))

/-- What a set is checked against, if its species is found. -/
def context? (v : Validator) (format : Format) (table : RuleTable) (set : PokemonSet) :
    Option SetContext :=
  let dex := v.registry.dexFor format
  (dex.findSpecies? set.species).map fun species =>
    { set, format, table, dex, species, config := v.config }

/-- The questions that a legality check is asked about a set. -/
def callsOf (c : SetContext) : List HookCall :=
  c.moves.map fun move =>
    { moveId := move.id, setName := c.name, formatKey := c.format.key, mod := c.dex.mod }

/-- The report on a set, against a format with that table. -/
def report (v : Validator) (format : Format) (table : RuleTable) (set : PokemonSet) :
    Except Failure SetReport := do
  let hook ← v.hookFor table
  match v.context? format table set with
  | none =>
    let gen := (v.registry.dexFor format).gen
    pure { problems := [s!"{set.species} is not a valid species for generation {gen}."] }
  | some c =>
    let problems ← (c.problems hook).mapError .ratio
    pure
      { problems, features := c.features, species := some c.species,
        calls := if hook.isSome then callsOf c else [] }

/-- What the journal says of a report on a set whose species was found. -/
def eventsOf (format : Format) (set : PokemonSet) (r : SetReport) : List Event :=
  if r.species.isSome then
    r.calls.map .asked ++ [.setChecked set.displayName format.key r.problems.length]
  else []

/-- Checks a set against a format. -/
def checkSet (v : Validator) (format : Format) (set : PokemonSet) : SessionM SetReport := do
  if !format.isKnown then return { problems := [unknownFormatProblem format] }
  let table ← v.registry.resolve format
  match v.report format table set with
  | .error failure => throw failure
  | .ok r =>
    modify (·.note (eventsOf format set r))
    return r

end Validator

end TeamLegality

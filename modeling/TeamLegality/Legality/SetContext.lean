import TeamLegality.Config
import TeamLegality.Format.Basic
import TeamLegality.Legality.Clauses
import TeamLegality.Team.Basic

/-!
# What a set is checked against

The parts of a set are looked up once, in the dex of the format.  What is found becomes the
features of the set: they depend on the set and the dex alone, not on any rule.
-/

namespace TeamLegality

/-- A set with a species that was found, and what it is checked against. -/
structure SetContext where
  set : PokemonSet
  format : Format
  table : RuleTable
  dex : Dex
  species : Species
  config : Config

namespace SetContext

/-- The name of the set in messages. -/
def name (c : SetContext) : String := c.set.displayName

/-- The generation that the set is played in. -/
def gen (c : SetContext) : Int := c.dex.gen

/-- The generation as messages write it. -/
def genText (c : SetContext) : String := toString c.gen

/-- The level of the set, or else the default of the format. -/
def level (c : SetContext) : Int := c.set.level.getD c.format.defaultLevel

/-- Whether what belongs to no game is admitted. -/
def admitsNonstandard (c : SetContext) : Bool := c.table.has Clause.allowNonstandard

/-- The item that was found; there are none in generation 1. -/
def item? (c : SetContext) : Option Item :=
  if c.set.item = "" ∨ c.gen < 2 then none else c.dex.findItem? c.set.item

/-- The ability that was found; there are none before generation 3. -/
def ability? (c : SetContext) : Option Ability :=
  if c.set.ability = "" ∨ c.gen < 3 then none else c.dex.findAbility? c.set.ability

/-- The identifier of the ability as the set spells it. -/
def spelledAbilityId (c : SetContext) : String := Text.toId c.set.ability

/-- Moves found by names, without those found before. -/
def distinctMoves (dex : Dex) : (seen : List String) → List String → List Move
  | _, [] => []
  | seen, raw :: rest =>
    match dex.findMove? raw with
    | none => distinctMoves dex seen rest
    | some move =>
      if seen.contains move.id then distinctMoves dex seen rest
      else move :: distinctMoves dex (move.id :: seen) rest

/-- The moves that were found, each once, in order. -/
def moves (c : SetContext) : List Move := distinctMoves c.dex [] c.set.moves

/-- The identifiers of the moves that were found. -/
def moveIds (c : SetContext) : List String := c.moves.map (·.id)

/-- The features of the set. -/
def features (c : SetContext) : List Target :=
  (c.species.features
    ++ (c.item?.toList.map fun i => Target.entry .item i.id)
    ++ (c.ability?.toList.map fun a => Target.entry .ability a.id)
    ++ c.moveIds.map fun id => Target.entry .move id).eraseDups

end SetContext

end TeamLegality

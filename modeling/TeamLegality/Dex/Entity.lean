import TeamLegality.Assoc
import TeamLegality.ElementType
import TeamLegality.Gender
import TeamLegality.Number.Binary64
import TeamLegality.Text.Identifier

/-!
# Entities — species, moves, items and abilities

An entity has a name, a number and the generation that introduced it.  Entities that belong to no
game carry a word that says so.  The identifier of an entity is that of its name.
-/

namespace TeamLegality

/-- What all entities have. -/
structure Entity where
  name : String
  num : Int
  gen : Int
  nonstandard : Option String
deriving DecidableEq

namespace Entity

/-- The identifier of an entity. -/
def id (e : Entity) : String := Text.toId e.name

/-- Whether an entity belongs to no game: the word that says so is not empty. -/
def isNonstandard (e : Entity) : Bool := e.nonstandard.any (· ≠ "")

end Entity

/-- A species or one of its formes. -/
structure Species extends Entity where
  baseSpecies : String
  forme : String
  types : List String
  gender : Option Gender
  genderRatio : Option (Assoc String Binary64)
  abilities : Assoc String String
  eggGroups : List String
  preEvolution : String
  evolutions : List String
  tier : String
  otherFormes : List String
  battleOnly : Bool
  requiredAbility : String
  requiredItems : List String
  requiredMove : String
  unreleasedHidden : Bool
  maleOnlyHidden : Bool
deriving DecidableEq

namespace Species

/-- Mega formes are told by the start of the forme's name. -/
def isMega (s : Species) : Bool := "Mega".toList.isPrefixOf s.forme.toList

/-- Whether a species can evolve. -/
def canEvolve (s : Species) : Bool := !s.evolutions.isEmpty

/-- The name of the hidden ability, empty when there is none. -/
def hiddenAbility (s : Species) : String := (s.abilities.get? "H").getD ""

/-- The identifiers of the abilities. -/
def abilityIds (s : Species) : List String := s.abilities.values.map Text.toId

end Species

/-- A property that is either on or off or names the case in which it holds. -/
inductive Marker where
  | flag (on : Bool)
  | text (name : String)
deriving DecidableEq, Repr

namespace Marker

/-- Whether a property is set at all. -/
def isSet : Marker → Bool
  | flag on => on
  | text name => name ≠ ""

end Marker

/-- Stat changes, by the keys of stats. -/
abbrev Boosts := Assoc String Int

/-- A move. -/
structure Move extends Entity where
  type : String
  category : String
  ohko : Marker
  boosts : Option Boosts
  zMoveBoost : Option Boosts
deriving DecidableEq

/-- An item. -/
structure Item extends Entity where
  zMove : Option Marker
  zMoveType : Option String
  megaStone : Option String
  forcedForme : Option String
deriving DecidableEq

/-- An ability. -/
structure Ability extends Entity where
deriving DecidableEq

end TeamLegality

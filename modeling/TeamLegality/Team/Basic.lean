import TeamLegality.Gender
import TeamLegality.Stats

/-!
# Sets and teams

A set is one configured Pokémon, a team an ordered list of sets, possibly bound to a format.  The
shape of a set is normalised, its values are not checked: a value out of range or a name that
nothing has is for the legality checks to report.
-/

namespace TeamLegality

/-- One configured Pokémon. -/
structure PokemonSet where
  name : String
  species : String
  item : String
  ability : String
  moves : List String
  nature : String
  gender : Option Gender
  evs : StatTable
  ivs : StatTable
  level : Option Int
  shiny : Bool
  hpType : String
  happiness : Int
  pokeball : String
deriving DecidableEq, Repr

namespace PokemonSet

/-- The name that messages use: the nickname, or else the species. -/
def displayName (s : PokemonSet) : String := if s.name = "" then s.species else s.name

end PokemonSet

/-- An ordered collection of sets. -/
structure Team where
  format : Option String
  sets : List PokemonSet
deriving DecidableEq, Repr

end TeamLegality

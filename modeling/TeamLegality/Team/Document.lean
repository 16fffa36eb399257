import TeamLegality.Json.Basic
import TeamLegality.Team.Basic

/-!
# Writing sets and teams as documents

Every field is written under its name with underscores, also where it has its default.
-/

namespace TeamLegality

namespace StatTable

/-- A stat table as an object, in table order. -/
def toJson (t : StatTable) : Json := .obj (Stat.all.map fun s => (s.key, .int (t.get s)))

end StatTable

namespace PokemonSet

/-- The members of a set. -/
def toMembers (s : PokemonSet) : List (String × Json) :=
  [("name", .str s.name), ("species", .str s.species), ("item", .str s.item),
   ("ability", .str s.ability), ("moves", .arr (s.moves.map .str)), ("nature", .str s.nature),
   ("gender", .str ((s.gender.map Gender.letter).getD "")), ("evs", s.evs.toJson),
   ("ivs", s.ivs.toJson), ("level", (s.level.map Json.int).getD .null), ("shiny", .bool s.shiny),
   ("hp_type", .str s.hpType), ("happiness", .int s.happiness), ("pokeball", .str s.pokeball)]

/-- A set as a document. -/
def toJson (s : PokemonSet) : Json := .obj s.toMembers

end PokemonSet

namespace Team

/-- A team as a document. -/
def toJson (t : Team) : Json :=
  .obj [("format", (t.format.map Json.str).getD .null), ("sets", .arr (t.sets.map (·.toJson)))]

end Team

end TeamLegality

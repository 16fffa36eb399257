import TeamLegality.Text.Identifier
import TeamLegality.Text.Blank

/-!
# Element types — the types of species, moves and crystals
-/

namespace TeamLegality

/-- A type of the games. -/
inductive ElementType where
  | bug | dark | dragon | electric | fairy | fighting | fire | flying | ghost | grass | ground
  | ice | normal | poison | psychic | rock | steel | water
deriving DecidableEq, Repr

namespace ElementType

/-- Every type, in alphabetical order. -/
def all : List ElementType :=
  [bug, dark, dragon, electric, fairy, fighting, fire, flying, ghost, grass, ground, ice, normal,
   poison, psychic, rock, steel, water]

/-- The name of a type. -/
def name : ElementType → String
  | bug => "Bug" | dark => "Dark" | dragon => "Dragon" | electric => "Electric" | fairy => "Fairy"
  | fighting => "Fighting" | fire => "Fire" | flying => "Flying" | ghost => "Ghost"
  | grass => "Grass" | ground => "Ground" | ice => "Ice" | normal => "Normal" | poison => "Poison"
  | psychic => "Psychic" | rock => "Rock" | steel => "Steel" | water => "Water"

/-- The type of that name, whatever its case and outer blanks. -/
def ofName? (s : String) : Option ElementType :=
  let folded := Text.foldCase (Text.strip s)
  all.find? fun t => Text.foldCase t.name == folded

theorem mem_all (t : ElementType) : t ∈ all := by
  cases t <;> decide

end ElementType

end TeamLegality

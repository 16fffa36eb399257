import TeamLegality.Dex.Entity
import TeamLegality.HiddenPower

/-!
# Dex — the tables of entities as one generation sees them

A dex holds four tables, keyed by identifiers, and a table of aliases.  Looking a name up tries the
table under the identifier of the name and then under its alias, and hides what a later generation
introduced.  The tables themselves stay in view of those who ask for them directly.
-/

namespace TeamLegality

/-- The tables of a mod and the generation that its lookups see. -/
structure Dex where
  mod : String
  gen : Int
  species : Assoc String Species
  moves : Assoc String Move
  items : Assoc String Item
  abilities : Assoc String Ability
  aliases : Assoc String String

namespace Dex

/-- The name of the mod of a generation. -/
def modOfGen (gen : Int) : String := "gen" ++ toString gen

/-- The same tables seen by another generation. -/
def withGen (d : Dex) (gen : Int) : Dex := { d with mod := modOfGen gen, gen := gen }

/-- The identifier that an identifier is an alias of, or else itself. -/
def resolveAlias (d : Dex) (id : String) : String := (d.aliases.get? id).getD id

/-- The entry of a table for a name: under its identifier, else under its alias. -/
def entry? {α : Type} (d : Dex) (table : Assoc String α) (name : String) : Option α :=
  let id := Text.toId name
  if id = "" then none else table.get? id <|> table.get? (d.resolveAlias id)

/-- The entry of a table for a name, unless a later generation introduced it. -/
def lookup {α : Type} (d : Dex) (table : Assoc String α) (gen : α → Int) (name : String) :
    Option α :=
  (d.entry? table name).filter fun e => gen e ≤ d.gen

/-- The species of that name. -/
def findSpecies? (d : Dex) (name : String) : Option Species :=
  d.lookup d.species (·.gen) name

/-- The item of that name. -/
def findItem? (d : Dex) (name : String) : Option Item :=
  d.lookup d.items (·.gen) name

/-- The ability of that name. -/
def findAbility? (d : Dex) (name : String) : Option Ability :=
  d.lookup d.abilities (·.gen) name

/-- The identifier of the move whose type depends on the individual values. -/
def hiddenPowerId : String := "hiddenpower"

/-- The type that an identifier adds to Hidden Power, if it does and there is such a type. -/
def typedHiddenPower? (id : String) : Option ElementType :=
  if hiddenPowerId.toList.isPrefixOf id.toList then
    (ElementType.ofName? (String.ofList (id.toList.drop hiddenPowerId.length))).filter
      HiddenPower.types.contains
  else none

/-- Hidden Power with a type of its own. -/
def withType (move : Move) (t : ElementType) : Move :=
  { move with name := move.name ++ " " ++ t.name, type := t.name }

/-- The move of that name.  Hidden Power followed by one of its types is a move even where the
table lists Hidden Power alone. -/
def findMove? (d : Dex) (name : String) : Option Move :=
  match d.lookup d.moves (·.gen) name with
  | some move => some move
  | none => do
    let t ← typedHiddenPower? (d.resolveAlias (Text.toId name))
    let base ← d.lookup d.moves (·.gen) hiddenPowerId
    some (withType base t)

end Dex

/-- Dexes by mod, in order. -/
abbrev DexCollection := Assoc String Dex

end TeamLegality

import TeamLegality.Json.Basic
import TeamLegality.Number.Shortest
import TeamLegality.Text.Quoted
import TeamLegality.Text.Identifier

/-!
# Displayed documents

Where a document stands for a name, it is the text shown for it that counts: a text stands for
itself, and within arrays and objects texts are quoted.
-/

namespace TeamLegality.Json

mutual

/-- A document as it is shown inside another one: texts are quoted. -/
def inner : Json → String
  | null => "None"
  | bool true => "True"
  | bool false => "False"
  | int n => toString n
  | real x => x.text
  | str s => Text.quote s
  | arr items => "[" ++ String.intercalate ", " (innerItems items) ++ "]"
  | obj members => "\x7b" ++ String.intercalate ", " (innerMembers members) ++ "\x7d"

/-- The items of an array as they are shown. -/
def innerItems : List Json → List String
  | [] => []
  | j :: rest => inner j :: innerItems rest

/-- The members of an object as they are shown. -/
def innerMembers : List (String × Json) → List String
  | [] => []
  | (name, j) :: rest => (Text.quote name ++ ": " ++ inner j) :: innerMembers rest

end

/-- A document as a text. -/
def display : Json → String
  | str s => s
  | j => inner j

/-- The identifier that a document stands for; null stands for the empty one. -/
def toId : Json → String
  | null => ""
  | j => Text.toId j.display

end TeamLegality.Json

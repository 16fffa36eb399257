import TeamLegality.Decoding.Fields
import TeamLegality.Json.Display
import TeamLegality.Team.Basic
import TeamLegality.Text.Identifier

/-!
# Reading sets and teams from documents

Stat names are taken in several spellings and missing stats get a default; genders are read in
either case.  A stat table or a gender that is not even of a shape that could be normalised aborts
the reading of the whole team.  Sets and teams must not have members that no field reads.
-/

namespace TeamLegality

open Decoding Decoded

namespace Stat

/-- The spellings of a stat beside its label and key. -/
def otherSpellings : List (String × Stat) :=
  [("spc", specialAttack), ("satk", specialAttack), ("sdef", specialDefense),
   ("spdef", specialDefense)]

/-- The stat of a name, whatever its case and outer blanks. -/
def ofName? (s : String) : Option Stat :=
  let folded := Text.foldCase (Text.strip s)
  match all.find? fun stat => stat.key == folded with
  | some stat => some stat
  | none => otherSpellings.lookup folded

end Stat

namespace StatTable

/-- The members that give stats their values, by stat, the last one winning; the name of the first
member that names no stat is an error. -/
def givenStats : List (String × Json) → Except String (Stat → Option Json)
  | [] => .ok fun _ => none
  | (name, j) :: rest =>
    match Stat.ofName? name with
    | none => .error name
    | some stat => do
      let later ← givenStats rest
      pure fun s => later s <|> if s = stat then some j else none

/-- The value of a stat among those given. -/
def readStat (given : Stat → Option Json) (default : Int) (s : Stat) : Decoded Int :=
  match given s with
  | some j => (ofWhole j).within (.field s.key)
  | none => .accepted default

/-- A stat table from the members given. -/
def readGiven (given : Stat → Option Json) (default : Int) : Decoded StatTable :=
  let stat := readStat given default
  mk <$> stat .hp <*> stat .attack <*> stat .defense <*> stat .specialAttack
    <*> stat .specialDefense <*> stat .speed

/-- A stat table; a document that says nothing gives the default throughout. -/
def ofJson (default : Int) (j : Json) : Decoded StatTable :=
  match j with
  | .obj members =>
    match givenStats members with
    | .ok given => readGiven given default
    | .error name => fail (.objection (.unknownStat name))
  | other => if other.saysSomething then .aborted else .accepted (const default)

end StatTable

/-- The gender of a set: a letter in either case, or nothing. -/
def Decoded.ofSetGender : Json → Decoded (Option Gender)
  | .str s =>
    let letter := String.ofList ((Text.trim s.toList).map Char.toUpper)
    if letter = "" then .accepted none
    else match Gender.ofLetter? letter with
      | some g => .accepted (some g)
      | none => fail (.objection (.unknownGender s))
  | other => if other.saysSomething then .aborted else .accepted none

namespace PokemonSet

/-- The names of the fields of a set. -/
def fieldNames : List String :=
  ["name", "species", "item", "ability", "moves", "nature", "gender", "evs", "ivs", "level",
   "shiny", "hp_type", "happiness", "pokeball"]

/-- The fields of a set. -/
def ofMembers (m : List (String × Json)) : Decoded PokemonSet :=
  mk <$> field m "name" "" ofText
    <*> required m "species" ofNonemptyText
    <*> field m "item" "" ofText
    <*> field m "ability" "" ofText
    <*> field m "moves" [] (Decoded.ofList ofText)
    <*> field m "nature" "" ofText
    <*> field m "gender" none ofSetGender
    <*> field m "evs" (.const 0) (StatTable.ofJson 0)
    <*> field m "ivs" (.const 31) (StatTable.ofJson 31)
    <*> field m "level" none (ofOptional ofWhole)
    <*> field m "shiny" false ofTruth
    <*> field m "hp_type" "" ofText
    <*> field m "happiness" 255 ofWhole
    <*> field m "pokeball" "" ofText

/-- A set. -/
def ofJson : Json → Decoded PokemonSet :=
  ofObject fun m => ofMembers m <* noOthers fieldNames m

end PokemonSet

/-- Why there is no team. -/
inductive TeamError where
  | notPairs
  | unevenPair
  | wrongShape
  | invalid (issues : List Issue)
  | unreadableNumber (text : String)
  | unknownEntry (entry : String)
  | unknownLine (line : String)
deriving DecidableEq, Repr

namespace TeamError

/-- The wording of an error, if it has one. -/
def message? : TeamError → Option String
  | unknownEntry entry => some ("Unrecognised stat entry: " ++ Text.quote entry)
  | unknownLine line => some ("Unrecognised team export line: " ++ Text.quote line)
  | _ => none

end TeamError

/-- The value of an outcome, or the error that its issues make. -/
def Decoded.toExcept {α : Type} : Decoded α → Except TeamError α
  | .accepted a => .ok a
  | .rejected issues => .error (.invalid issues)
  | .aborted => .error .wrongShape

namespace Team

/-- The names of the fields of a team. -/
def fieldNames : List String := ["format", "sets"]

/-- The fields of a team. -/
def ofMembers (m : List (String × Json)) : Decoded Team :=
  mk <$> field m "format" none (ofOptional ofText)
    <*> field m "sets" [] (Decoded.ofList PokemonSet.ofJson)

/-- A team from the members of an object. -/
def ofObject (m : List (String × Json)) : Decoded Team := ofMembers m <* noOthers fieldNames m

/-! ### Lists of pairs in place of objects -/

/-- The two halves of a pair: an array, an object or a text of exactly two parts. -/
def pairOf (j : Json) : Except TeamError (Json × Json) :=
  let parts? : Option (List Json) := match j with
    | .arr items => some items
    | .obj members => some (members.map fun m => .str m.1)
    | .str s => some (s.toList.map fun c => .str (String.ofList [c]))
    | _ => none
  match parts? with
  | some [.arr _, _] | some [.obj _, _] => .error .notPairs
  | some [key, value] => .ok (key, value)
  | some _ => .error .unevenPair
  | none => .error .notPairs

/-- The value of a key.  Keys of one value are one key: numbers count by their value, and a truth
value is 0 or 1. -/
inductive KeyValue where
  | null
  | whole (n : Int)
  | real (x : Binary64)
  | text (s : String)
deriving DecidableEq, Repr

/-- The value of a key, which is neither an array nor an object. -/
def KeyValue.ofJson : Json → KeyValue
  | .bool b => .whole (if b then 1 else 0)
  | .int n => .whole n
  | .real x =>
    match x.integer? with
    | some n => .whole n
    | none => .real x
  | .str s => .text s
  | _ => .null

/-- The step to a member whose key need not be a text. -/
def keyStep (key : Json) : PathStep :=
  match key with
  | .int n => if fitsWord n then .index n else .field key.display
  | .bool b => .index (if b then 1 else 0)
  | _ => .field key.display

/-- The issue that the key of a pair makes, if no field reads the pair. -/
def keyIssue? (key : Json) : Option Issue :=
  match key with
  | .str s => if fieldNames.contains s then none else some ⟨[.field s], .unexpected⟩
  | other => some ⟨[keyStep other], .keyNotText⟩

/-- A team from pairs of keys and values.  A key is spelled as where it comes first. -/
def ofPairs (pairs : List (Json × Json)) : Decoded Team :=
  let members := Json.collectMembers (pairs.filterMap fun p => p.1.str?.map fun s => (s, p.2))
  let keys := (pairs.map Prod.fst).eraseDupsBy fun a b =>
    KeyValue.ofJson a = KeyValue.ofJson b
  let issues := keys.filterMap keyIssue?
  ofMembers members <* (if issues.isEmpty then .accepted () else .rejected issues)

/-- A team from a document: an object, or a list of pairs in place of one. -/
def load (j : Json) : Except TeamError Team :=
  match j with
  | .obj members => (ofObject members).toExcept
  | .arr items => do (ofPairs (← items.mapM pairOf)).toExcept
  | .str s => do
    let letters := s.toList.map fun c => Json.str (String.ofList [c])
    (ofPairs (← letters.mapM pairOf)).toExcept
  | _ => .error .notPairs

/-- A team from a document in a file: a bare list is the list of sets. -/
def loadFile (j : Json) : Except TeamError Team :=
  match j with
  | .arr items => load (.obj [("sets", .arr items)])
  | other => load other

end Team

end TeamLegality

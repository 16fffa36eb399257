import TeamLegality.Team.Decoding
import TeamLegality.Text.Integer

/-!
# Exported teams — the plain-text form

Sets are blocks of lines between blank lines.  The first line of a block is its header: a species,
or a nickname and the species between parentheses, then perhaps a gender and an item.  Each further
line is a move or gives one field by its label.
-/

namespace TeamLegality.Export

/-- The characters of a text literal. -/
abbrev Line := List Char

/-! ### The header -/

/-- A header without the gender at its end, and the letter of that gender. -/
def splitGender (header : Line) : Line × Option Char :=
  match header.reverse with
  | ')' :: letter :: '(' :: before =>
    if (letter = 'M' ∨ letter = 'F') ∧ before.head?.any Text.isBlank then
      ((before.dropWhile Text.isBlank).reverse, some letter)
    else (header, none)
  | _ => (header, none)

/-- The nickname and the species of a header that gives both. -/
def splitNickname? (header : Line) : Option (Line × Line) :=
  match header.reverse with
  | ')' :: rest =>
    let isParenthesis (c : Char) : Bool := c = '(' || c = ')'
    let species := (rest.takeWhile (!isParenthesis ·)).reverse
    match rest.dropWhile (!isParenthesis ·) with
    | '(' :: before =>
      let name := (before.dropWhile Text.isBlank).reverse
      if species ≠ [] ∧ name ≠ [] ∧ before.head?.any Text.isBlank then some (name, species)
      else none
    | _ => none
  | _ => none

/-- A text as a member of a set. -/
def textMember (name : String) (cs : Line) : String × Json := (name, .str (String.ofList cs))

/-- The members that a header gives. -/
def headerMembers (header : Line) : List (String × Json) :=
  let (header, item) := match Text.cutLast? " @ ".toList header with
    | some (before, after) => (before, [textMember "item" (Text.trim after)])
    | none => (header, [])
  let (header, gender) := splitGender (Text.trim header)
  let gender := gender.toList.map fun letter => textMember "gender" [letter]
  match splitNickname? header with
  | some (name, species) =>
    item ++ gender
      ++ [textMember "name" (Text.trim name), textMember "species" (Text.trim species)]
  | none => item ++ gender ++ [textMember "species" header]

/-! ### The other lines -/

/-- A letter of a stat name. -/
def isLetter (c : Char) : Bool := c.isUpper || c.isLower

/-- An entry of a stat line: a value and the name of a stat. -/
def statEntry (chunk : Line) : Except TeamError (String × Json) :=
  let entry := Text.trim chunk
  let (sign, digits) := match entry with
    | '-' :: rest => (['-'], rest)
    | rest => ([], rest)
  let value := digits.takeWhile Text.isDecimal
  let rest := digits.dropWhile Text.isDecimal
  let name := rest.dropWhile Text.isBlank
  if value ≠ [] ∧ rest.head?.any Text.isBlank ∧ name ≠ [] ∧ name.all isLetter then
    match Text.integer? (sign ++ value) with
    | some n => .ok (String.ofList name, .int n)
    | none => .error (.unreadableNumber (String.ofList (sign ++ value)))
  else .error (.unknownEntry (String.ofList entry))

/-- The entries of a stat line, separated by slashes. -/
def statEntries (text : Line) : Except TeamError Json :=
  ((Text.splitAt '/' text).mapM statEntry).map fun entries => .obj (Json.collectMembers entries)

/-- A whole number that stands on its own. -/
def number (text : Line) : Except TeamError Json :=
  match Text.integer? text with
  | some n => .ok (.int n)
  | none => .error (.unreadableNumber (String.ofList text))

/-- What a labelled line can give: the label, the name of the member, and how its value is read. -/
def labels : List (String × String × (Line → Except TeamError Json)) :=
  let text (cs : Line) : Except TeamError Json := .ok (.str (String.ofList (Text.trim cs)))
  let yes (cs : Line) : Except TeamError Json :=
    .ok (.bool (Text.foldCase (String.ofList (Text.trim cs)) == "yes"))
  [("Ability:", "ability", text), ("Level:", "level", number), ("Shiny:", "shiny", yes),
   ("Happiness:", "happiness", number), ("Hidden Power:", "hp_type", text),
   ("EVs:", "evs", statEntries), ("IVs:", "ivs", statEntries)]

/-- The ending of a line that gives the nature. -/
def natureEnding : Line := " Nature".toList

/-- What a line after the header gives. -/
inductive Field where
  | move (name : String)
  | member (name : String) (value : Json)

/-- The field that a line gives. -/
def lineField (line : Line) : Except TeamError Field :=
  match line with
  | '-' :: move => .ok (.move (String.ofList (Text.trim move)))
  | _ =>
    match labels.find? fun l => l.1.toList.isPrefixOf line with
    | some (label, name, read) => (read (line.drop label.length)).map (.member name)
    | none =>
      if natureEnding.isSuffixOf line then
        .ok (.member "nature"
          (.str (String.ofList (Text.trim (line.take (line.length - natureEnding.length))))))
      else .error (.unknownLine (String.ofList line))

/-- The members of a block: those of the header, the moves in order, and the last value given for
each other field. -/
def blockMembers (header : Line) (fields : List Field) : List (String × Json) :=
  let moves := fields.filterMap fun
    | .move name => some (Json.str name)
    | .member _ _ => none
  let members := fields.filterMap fun
    | .move _ => none
    | .member name value => some (name, value)
  Json.collectMembers (headerMembers header ++ members ++ [("moves", .arr moves)])

/-- The set of a block. -/
def parseBlock (header : Line) (rest : List Line) : Except TeamError PokemonSet := do
  let fields ← rest.mapM lineField
  (PokemonSet.ofJson (.obj (blockMembers header fields))).toExcept

/-! ### The whole text -/

/-- The blocks of a text: runs of lines that are not blank, without their outer blanks. -/
def blocks : List Line → List (List Line)
  | [] => []
  | line :: rest =>
    let line := Text.trim line
    if line = [] then [] :: blocks rest
    else match blocks rest with
      | [] => [[line]]
      | block :: more => (line :: block) :: more

/-- The sets of an exported team. -/
def parseSets (text : String) : Except TeamError (List PokemonSet) :=
  ((blocks (Text.lines text.toList)).filter (!·.isEmpty)).mapM fun
    | [] => .error (.unknownLine "")
    | header :: rest => parseBlock header rest

/-- The team of an exported text. -/
def parseTeam (text : String) (format : Option String) : Except TeamError Team :=
  (parseSets text).map fun sets => { format, sets }

end TeamLegality.Export

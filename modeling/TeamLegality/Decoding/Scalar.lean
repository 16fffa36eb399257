import TeamLegality.Decoding.Basic
import TeamLegality.Json.Basic
import TeamLegality.Number.Reading
import TeamLegality.Number.Word
import TeamLegality.Text.Numeral
import TeamLegality.Assoc

/-!
# Reading scalars, lists and tables

Texts are taken as they are.  Numbers and truth values are read leniently: a truth value counts as
0 or 1, a text may spell a number or a truth value, and a real number without fraction is whole.
-/

namespace TeamLegality.Decoded

/-- A text. -/
def ofText : Json → Decoded String
  | .str s => .accepted s
  | _ => fail .notText

/-- A text that is not empty. -/
def ofNonemptyText (j : Json) : Decoded String :=
  (ofText j).andThen fun s => if s = "" then fail .textTooShort else .accepted s

/-- A whole number in a text. -/
def ofWholeText (s : String) : Decoded Int :=
  if Text.opensTooLong s.toList then fail .wholeTooLong
  else match Text.numeral? s.toList with
    | some n => .accepted n
    | none => fail .wholeUnreadable

/-- A whole number.  A real number counts only where a word could hold it. -/
def ofWhole : Json → Decoded Int
  | .int n => .accepted n
  | .bool b => .accepted (if b then 1 else 0)
  | .real x =>
    match x.truncate?, x.integer? with
    | none, _ => fail .numberNotFinite
    | some _, none => fail .wholeHasFraction
    | some _, some n => if isInsideWord n then .accepted n else fail .wholeTooLong
  | .str s => ofWholeText s
  | _ => fail .notWhole

/-- A whole number of at least one. -/
def ofPositive (j : Json) : Decoded Int :=
  (ofWhole j).andThen fun n => if n < 1 then fail .belowMinimum else .accepted n

/-- The spellings of the truth values. -/
def truthWords : List (String × Bool) :=
  [("0", false), ("off", false), ("f", false), ("false", false), ("n", false), ("no", false),
   ("1", true), ("on", true), ("t", true), ("true", true), ("y", true), ("yes", true)]

/-- The truth value that a number stands for. -/
def ofTruthNumber (n : Int) : Decoded Bool :=
  if n = 0 then .accepted false else if n = 1 then .accepted true else fail .truthUnreadable

/-- A truth value.  Numbers that no word holds are not even taken for one. -/
def ofTruth : Json → Decoded Bool
  | .bool b => .accepted b
  | .int n => if fitsWord n then ofTruthNumber n else fail .notTruth
  | .real x =>
    match x.integer? with
    | some n => if isInsideWord n then ofTruthNumber n else fail .notTruth
    | none => fail .notTruth
  | .str s =>
    match truthWords.lookup (String.ofList (s.toList.map Char.toLower)) with
    | some b => .accepted b
    | none => fail .truthUnreadable
  | _ => fail .notTruth

/-- A real number in a text: outer blanks are allowed, or single underscores. -/
def ofRealText (s : String) : Decoded Binary64 :=
  let trimmed := Text.trimBy Text.isNumberBlank s.toList
  match Binary64.read? trimmed <|> (Text.withoutUnderscores? s.toList).bind Binary64.read? with
  | some x => .accepted x
  | none => fail .realUnreadable

/-- A real number; a whole number only if it is not too large for one. -/
def ofReal : Json → Decoded Binary64
  | .int n =>
    match Binary64.ofInt n with
    | .infinite _ => fail .notReal
    | x => .accepted x
  | .bool b => .accepted (Binary64.ofInt (if b then 1 else 0))
  | .real x => .accepted x
  | .str s => ofRealText s
  | _ => fail .notReal

variable {α : Type}

/-- Null, or a value. -/
def ofOptional (read : Json → Decoded α) : Json → Decoded (Option α)
  | .null => .accepted none
  | j => (read j).map some

/-- Items read in turn, each under its position. -/
def ofItems (read : Json → Decoded α) : (position : Nat) → List Json → Decoded (List α)
  | _, [] => .accepted []
  | position, j :: rest =>
    (((read j).within (.index position)).map List.cons).apply (ofItems read (position + 1) rest)

/-- A list. -/
def ofList (read : Json → Decoded α) : Json → Decoded (List α)
  | .arr items => ofItems read 0 items
  | _ => fail .notList

/-- Members read in turn, each under its name. -/
def ofMembers (read : Json → Decoded α) :
    List (String × Json) → Decoded (List (String × α))
  | [] => .accepted []
  | (name, j) :: rest =>
    ((((read j).within (.field name)).map fun a => List.cons (name, a))).apply
      (ofMembers read rest)

/-- A table from texts to values. -/
def ofTable (read : Json → Decoded α) : Json → Decoded (Assoc String α)
  | .obj members => (ofMembers read members).map Assoc.ofList
  | _ => fail .notTable

end TeamLegality.Decoded

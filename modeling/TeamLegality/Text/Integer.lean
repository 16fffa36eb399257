import TeamLegality.Text.Blank
import TeamLegality.Text.Digit

/-!
# Integers in texts

An integer is written as an optional sign and decimal digits of any script, with single
underscores allowed between digits and blanks allowed around the whole.  Texts of more than
`maxDigits` digits are refused.
-/

namespace TeamLegality.Text

/-- The longest run of digits that is read as a number. -/
def maxDigits : Nat := 4300

/-- The value of a run of digit values, most significant first. -/
def ofDigits (ds : List Nat) : Nat := ds.foldl (fun n d => 10 * n + d) 0

/-- The value of a run of ASCII digits. -/
def digitsValue (ds : List Char) : Nat := ofDigits (ds.map fun c => c.toNat - 48)

/-- The values of a run of digits in which single underscores may stand between digits. -/
def digitRun? (value? : Char → Option Nat) : List Char → Option (List Nat)
  | [] => none
  | [c] => (value? c).map ([·])
  | c :: '_' :: rest => do
    let d ← value? c
    let ds ← digitRun? value? rest
    pure (d :: ds)
  | c :: rest => do
    let d ← value? c
    let ds ← digitRun? value? rest
    pure (d :: ds)

/-- The sign at the front of a text, `true` for minus, and the text after it. -/
def splitSign : List Char → Bool × List Char
  | '-' :: rest => (true, rest)
  | '+' :: rest => (false, rest)
  | cs => (false, cs)

/-- A number with its sign. -/
def signed (negative : Bool) (n : Nat) : Int := if negative then -(n : Int) else n

/-- The integer that a text denotes, if it denotes one. -/
def integer? (cs : List Char) : Option Int := do
  let (negative, digits) := splitSign (trimBy isNumberBlank cs)
  let ds ← digitRun? decimalValue? digits
  if ds.length ≤ maxDigits then some (signed negative (ofDigits ds)) else none

example : integer? [' ', '-', '1', '_', '0', '\n'] = some (-10) := by decide

example : integer? ['1', '_', '_', '0'] = none := by decide

end TeamLegality.Text

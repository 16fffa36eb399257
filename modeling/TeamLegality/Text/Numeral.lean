import TeamLegality.Text.Integer
import TeamLegality.Text.Split

/-!
# Numerals — whole numbers as documents spell them

The plain numeral of an integer is a minus or nothing, and ASCII digits of which the first is zero
only if it is the last.  A document may spell a number more freely: with blanks around it, a sign,
leading zeros, single underscores between digits and a fraction of zeros.  All this is taken away,
and what is left has to be a plain numeral.  A text that opens with a plain numeral of more than
`maxDigits` digits is too long, whatever follows; the sign does not count.
-/

namespace TeamLegality.Text

/-- Whether a text starts with a minus, and the text after it. -/
def splitMinus : List Char → Bool × List Char
  | '-' :: rest => (true, rest)
  | cs => (false, cs)

/-- The integer of a plain numeral. -/
def plainNumeral? (cs : List Char) : Option Int :=
  let (negative, digits) := splitMinus cs
  if digits = [] ∨ !digits.all Char.isDigit then none
  else if digits.head? = some '0' ∧ digits ≠ ['0'] then none
  else if maxDigits < digits.length then none
  else some (signed negative (digitsValue digits))

/-- Whether a text opens with a plain numeral that is too long. -/
def opensTooLong (cs : List Char) : Bool :=
  let digits := (splitMinus cs).2.takeWhile Char.isDigit
  digits.head? != some '0' && maxDigits < digits.length

/-- A text after zeros and underscores, of which `last` was the last.  That one stays before a point
and at the end; a minus may follow zeros. -/
def afterZeros? (last : Char) : List Char → Option (List Char)
  | [] => some [last]
  | c :: rest =>
    if c = '0' ∨ c = '_' then afterZeros? c rest
    else if c = '.' then some (last :: c :: rest)
    else if c.isDigit ∨ c = '-' then some (c :: rest)
    else none

/-- A text that starts with a digit, without its leading zeros and the underscores among them. -/
def withoutZeros? : List Char → Option (List Char)
  | [] => none
  | c :: rest =>
    if c = '0' then afterZeros? c rest else if c.isDigit then some (c :: rest) else none

/-- A text without a fraction of zeros; a point alone is no fraction. -/
def withoutFraction (cs : List Char) : List Char :=
  let zeros := (cs.dropWhile (· ≠ '.')).drop 1
  if zeros ≠ [] ∧ zeros.all (· = '0') then cs.takeWhile (· ≠ '.') else cs

/-- A text without its underscores, if it has some and they all stand singly inside it. -/
def withoutUnderscores? (cs : List Char) : Option (List Char) :=
  if cs.head? = some '_' ∨ cs.getLast? = some '_' ∨ '_' ∉ cs
      ∨ (cutFirst? ['_', '_'] cs).isSome then none
  else some (cs.filter (· ≠ '_'))

/-- What is left of a text when its liberties are taken away. -/
def plainForm? (cs : List Char) : Option (List Char) := do
  let (negative, unsigned) := splitSign (trimBy isNumberBlank cs)
  let body := withoutFraction (← withoutZeros? unsigned)
  let body := (withoutUnderscores? body).getD body
  pure (if negative then '-' :: body else body)

/-- The integer that a document spells. -/
def numeral? (cs : List Char) : Option Int := (plainForm? cs).bind plainNumeral?

example : numeral? [' ', '+', '0', '_', '1', '_', '0', '.', '0'] = some 10 := by decide

example : numeral? ['1', '_', '_', '0'] = none := by decide

example : numeral? ['0', '_', '-', '7'] = some (-7) := by decide

end TeamLegality.Text

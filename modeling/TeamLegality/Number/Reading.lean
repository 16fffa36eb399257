import TeamLegality.Number.Binary64
import TeamLegality.Text.Integer

/-!
# Reading floating-point texts

A number text is an optional sign, digits with at most one point among them, and an optional
exponent; the words for infinity and for no number are read in any case.
-/

namespace TeamLegality.Binary64

open TeamLegality.Text

/-- The digits at the front of a text, and the rest. -/
def spanDigits (cs : List Char) : List Char × List Char :=
  (cs.takeWhile Char.isDigit, cs.dropWhile Char.isDigit)

/-- An exponent `e±digits`, or nothing, up to the end of the text. -/
def exponent? : List Char → Option Int
  | [] => some 0
  | e :: rest =>
    if e = 'e' ∨ e = 'E' then
      let (negative, digits) := match rest with
        | '-' :: r => (true, r)
        | '+' :: r => (false, r)
        | r => (false, r)
      if digits ≠ [] ∧ digits.all Char.isDigit then
        some (if negative then -(digitsValue digits : Int) else (digitsValue digits : Int))
      else none
    else none

/-- The magnitude that an unsigned number text denotes. -/
def magnitude? (negative : Bool) (cs : List Char) : Option Binary64 := do
  let (whole, rest) := spanDigits cs
  let (fraction, tail) := match rest with
    | '.' :: r => spanDigits r
    | r => ([], r)
  if whole = [] ∧ fraction = [] then none
  else
    let e ← exponent? tail
    some (ofDecimal negative (digitsValue (whole ++ fraction)) (e - fraction.length))

/-- The number that a text denotes. -/
def read? (cs : List Char) : Option Binary64 :=
  let (negative, rest) := match cs with
    | '-' :: r => (true, r)
    | '+' :: r => (false, r)
    | r => (false, r)
  let word := String.ofList (rest.map Char.toLower)
  if word = "inf" ∨ word = "infinity" then some (.infinite negative)
  else if word = "nan" then some .notANumber
  else magnitude? negative rest

end TeamLegality.Binary64

/-!
# Identifiers — the form in which names are compared

Two names that differ only in case, blanks or punctuation name the same thing.  `toId` keeps the
ASCII letters and digits of a name, letters in lower case; `foldCase` only lowers letters, for the
places where blanks and punctuation still count.  Both are defined character by character, so both
commute with concatenation.
-/

namespace TeamLegality.Text

/-- The Kelvin sign, whose lower-case form is the letter `k`. -/
def kelvinSign : Char := '\u212a'

/-- The capital dotted I, whose lower-case form is the letter `i` and a combining dot. -/
def dottedCapitalI : Char := '\u0130'

/-- The character that `c` contributes to an identifier, if any: outside ASCII only the two letters
whose lower-case form holds an ASCII letter contribute one. -/
def idChar? (c : Char) : Option Char :=
  if c.isDigit || c.isLower then some c
  else if c.isUpper then some c.toLower
  else if c = kelvinSign then some 'k'
  else if c = dottedCapitalI then some 'i'
  else none

/-- The identifier of a name: `[Gen 7] OU` becomes `gen7ou`. -/
def toId (s : String) : String :=
  String.ofList (s.toList.filterMap idChar?)

/-- Lower case as far as it can make a character an ASCII letter; all else is left alone, so a
folded text equals an ASCII text exactly when the fully lowered text does. -/
def foldChar (c : Char) : Char :=
  if c.isUpper then c.toLower else if c = kelvinSign then 'k' else c

/-- A text with its letters folded to lower case. -/
def foldCase (s : String) : String :=
  String.ofList (s.toList.map foldChar)

@[simp] theorem toList_toId (s : String) : (toId s).toList = s.toList.filterMap idChar? := by
  simp [toId]

@[simp] theorem toList_foldCase (s : String) : (foldCase s).toList = s.toList.map foldChar := by
  simp [foldCase]

theorem toId_append (s t : String) : toId (s ++ t) = toId s ++ toId t := by
  simp [toId, String.toList_append]

end TeamLegality.Text

import TeamLegality.Text.Printable

/-!
# Quoted text — a text shown between quotation marks

A text is quoted with single marks unless it holds a single mark and no double one.  The mark and
the backslash are escaped by a backslash, line ends and tabs by their letters, and every other
character that is not printable by its code point in two, four or eight hexadecimal digits.
-/

namespace TeamLegality.Text

/-- The single quotation mark. -/
def singleMark : Char := '\x27'

/-- The double quotation mark. -/
def doubleMark : Char := '\x22'

/-- The mark that a text is quoted with. -/
def quoteMark (cs : List Char) : Char :=
  if singleMark ∈ cs ∧ doubleMark ∉ cs then doubleMark else singleMark

/-- The last `width` hexadecimal digits of a number, leading zeros included. -/
def hexDigits : (width : Nat) → (n : Nat) → List Char
  | 0, _ => []
  | width + 1, n => hexDigits width (n / 16) ++ [Nat.digitChar (n % 16)]

/-- A character that is not printable, by its code point. -/
def codePointEscape (c : Char) : List Char :=
  if c.toNat < 0x100 then ['\\', 'x'] ++ hexDigits 2 c.toNat
  else if c.toNat < 0x10000 then ['\\', 'u'] ++ hexDigits 4 c.toNat
  else ['\\', 'U'] ++ hexDigits 8 c.toNat

/-- A character of a text quoted with `mark`. -/
def quoteChar (mark c : Char) : List Char :=
  if c = mark ∨ c = '\\' then ['\\', c]
  else if c = '\n' then ['\\', 'n']
  else if c = '\r' then ['\\', 'r']
  else if c = '\t' then ['\\', 't']
  else if isPrintable c then [c]
  else codePointEscape c

/-- A text between quotation marks. -/
def quoteChars (cs : List Char) : List Char :=
  let mark := quoteMark cs
  mark :: cs.flatMap (quoteChar mark) ++ [mark]

/-- `quoteChars` on strings. -/
def quote (s : String) : String := String.ofList (quoteChars s.toList)

/-- A list of texts, each quoted, between square brackets. -/
def quoteList (texts : List String) : String :=
  "[" ++ String.intercalate ", " (texts.map quote) ++ "]"

example : hexDigits 4 0x200b = ['2', '0', '0', 'b'] := by decide

example : quoteChars ['a', '\n'] = ['\x27', 'a', '\\', 'n', '\x27'] := by decide +kernel

end TeamLegality.Text

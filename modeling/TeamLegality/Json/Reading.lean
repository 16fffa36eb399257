import TeamLegality.Json.Basic
import TeamLegality.Number.Reading

/-!
# Reading documents

A recursive descent over the characters of a text.  Each step consumes at least one character, so
the length of the text bounds the depth of the recursion: `Json.read?` runs on that budget.  A name
that an object mentions twice keeps its first place and its last value.
-/

namespace TeamLegality.Json

/-- White space between the parts of a document. -/
def isSpace (c : Char) : Bool := c = ' ' || c = '\n' || c = '\r' || c = '\t'

/-- A text without the spaces at its front. -/
def skip (cs : List Char) : List Char := cs.dropWhile isSpace

/-- The value of a hexadecimal digit. -/
def hexValue? (c : Char) : Option Nat :=
  if '0' ≤ c ∧ c ≤ '9' then some (c.toNat - 48)
  else if 'a' ≤ c ∧ c ≤ 'f' then some (c.toNat - 87)
  else if 'A' ≤ c ∧ c ≤ 'F' then some (c.toNat - 55)
  else none

/-- Four hexadecimal digits and the rest of the text. -/
def hexUnit? : List Char → Option (Nat × List Char)
  | a :: b :: c :: d :: rest => do
    let a ← hexValue? a
    let b ← hexValue? b
    let c ← hexValue? c
    let d ← hexValue? d
    some (((a * 16 + b) * 16 + c) * 16 + d, rest)
  | _ => none

/-- An escaped code point: a high surrogate is joined with the low one that follows. -/
def codePoint? (cs : List Char) : Option (Char × List Char) := do
  let (high, rest) ← hexUnit? cs
  if 0xd800 ≤ high ∧ high < 0xdc00 then
    match rest with
    | '\\' :: 'u' :: more =>
      let (low, rest) ← hexUnit? more
      some (Char.ofNat (0x10000 + (high - 0xd800) * 0x400 + (low - 0xdc00)), rest)
    | _ => none
  else some (Char.ofNat high, rest)

/-- The character that a one-letter escape stands for. -/
def letterEscape? : Char → Option Char
  | 'b' => some '\x08'
  | 'f' => some '\x0c'
  | 'n' => some '\n'
  | 'r' => some '\r'
  | 't' => some '\t'
  | '/' => some '/'
  | '\\' => some '\\'
  | c => if c = '\x22' then some c else none

/-- The rest of a text literal, after its opening mark. -/
def textRest : (fuel : Nat) → (done : List Char) → List Char → Option (String × List Char)
  | 0, _, _ => none
  | fuel + 1, done, cs =>
    match cs with
    | [] => none
    | '\\' :: 'u' :: rest => do
      let (c, rest) ← codePoint? rest
      textRest fuel (c :: done) rest
    | '\\' :: e :: rest => do
      let c ← letterEscape? e
      textRest fuel (c :: done) rest
    | c :: rest =>
      if c = '\x22' then some (String.ofList done.reverse, rest)
      else textRest fuel (c :: done) rest

/-- The characters of a number. -/
def isNumberChar (c : Char) : Bool :=
  c.isDigit || c = '-' || c = '+' || c = '.' || c = 'e' || c = 'E'

/-- A number: whole without point and exponent, else real. -/
def number? (cs : List Char) : Option (Json × List Char) :=
  let token := cs.takeWhile isNumberChar
  let rest := cs.dropWhile isNumberChar
  let (negative, digits) := match token with
    | '-' :: r => (true, r)
    | r => (false, r)
  if digits = [] then none
  else if digits.all Char.isDigit then
    let n := Text.digitsValue digits
    some (.int (if negative then -(n : Int) else (n : Int)), rest)
  else (Binary64.read? token).map fun x => (.real x, rest)

/-- The words of the grammar. -/
def words : List (List Char × Json) :=
  [("null".toList, .null), ("true".toList, .bool true), ("false".toList, .bool false),
   ("NaN".toList, .real .notANumber), ("Infinity".toList, .real (.infinite false)),
   ("-Infinity".toList, .real (.infinite true))]

/-- A word or a number. -/
def atom? (cs : List Char) : Option (Json × List Char) :=
  match words.find? fun w => w.1.isPrefixOf cs with
  | some (word, j) => some (j, cs.drop word.length)
  | none => number? cs

mutual

/-- A document at the front of a text, and the rest. -/
def value : (fuel : Nat) → List Char → Option (Json × List Char)
  | 0, _ => none
  | fuel + 1, cs =>
    match skip cs with
    | '[' :: rest =>
      match skip rest with
      | ']' :: rest => some (.arr [], rest)
      | rest => items fuel [] rest
    | '{' :: rest =>
      match skip rest with
      | '}' :: rest => some (.obj [], rest)
      | rest => members fuel [] rest
    | c :: rest =>
      if c = '\x22' then (textRest rest.length [] rest).map fun (s, rest) => (.str s, rest)
      else atom? (c :: rest)
    | [] => none

/-- The items of an array from the next one on. -/
def items : (fuel : Nat) → (done : List Json) → List Char → Option (Json × List Char)
  | 0, _, _ => none
  | fuel + 1, done, cs => do
    let (j, rest) ← value fuel cs
    match skip rest with
    | ',' :: rest => items fuel (j :: done) rest
    | ']' :: rest => some (.arr (j :: done).reverse, rest)
    | _ => none

/-- The members of an object from the next one on. -/
def members :
    (fuel : Nat) → (done : List (String × Json)) → List Char → Option (Json × List Char)
  | 0, _, _ => none
  | fuel + 1, done, cs =>
    match skip cs with
    | c :: rest =>
      if c = '\x22' then do
        let (name, rest) ← textRest rest.length [] rest
        match skip rest with
        | ':' :: rest =>
          let (j, rest) ← value fuel rest
          match skip rest with
          | ',' :: rest => members fuel ((name, j) :: done) rest
          | '}' :: rest => some (.obj (collectMembers ((name, j) :: done).reverse), rest)
          | _ => none
        | _ => none
      else none
    | [] => none

end

/-- The document that a text holds, if it holds one and nothing else. -/
def read? (text : String) : Option Json :=
  let cs := text.toList
  match value (cs.length + 1) cs with
  | some (j, rest) => if (skip rest).isEmpty then some j else none
  | none => none

end TeamLegality.Json

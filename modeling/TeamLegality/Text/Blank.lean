/-!
# Blanks and line breaks

Which characters are blank, what a text is without its outer blanks, and how a text falls into
lines.  The information separators U+001C to U+001F count as blank; the zero-width characters do
not.
-/

namespace TeamLegality.Text

/-- White space: the separators and the control characters that stand for one. -/
def isBlank (c : Char) : Bool :=
  let n := c.toNat
  (0x09 ≤ n && n ≤ 0x0d) || (0x1c ≤ n && n ≤ 0x20) || n == 0x85 || n == 0xa0 || n == 0x1680
    || (0x2000 ≤ n && n ≤ 0x200a) || n == 0x2028 || n == 0x2029 || n == 0x202f || n == 0x205f
    || n == 0x3000

/-- White space as number texts see it: without the information separators. -/
def isNumberBlank (c : Char) : Bool :=
  isBlank c && !(0x1c ≤ c.toNat && c.toNat ≤ 0x1f)

/-- The characters that end a line; a carriage return and the line feed after it end one line. -/
def isLineBreak (c : Char) : Bool :=
  let n := c.toNat
  (0x0a ≤ n && n ≤ 0x0d) || (0x1c ≤ n && n ≤ 0x1e) || n == 0x85 || n == 0x2028 || n == 0x2029

/-- A text without the leading and trailing characters that satisfy `p`. -/
def trimBy (p : Char → Bool) (cs : List Char) : List Char :=
  ((cs.dropWhile p).reverse.dropWhile p).reverse

/-- A text without its outer blanks. -/
def trim (cs : List Char) : List Char := trimBy isBlank cs

/-- `trim` on strings. -/
def strip (s : String) : String := String.ofList (trim s.toList)

/-- The lines of a text, without their breaks; a break at the end opens no further line. -/
def lines : List Char → List (List Char)
  | [] => []
  | '\r' :: '\n' :: rest => [] :: lines rest
  | c :: rest =>
    if isLineBreak c then [] :: lines rest
    else match lines rest with
      | [] => [[c]]
      | line :: more => (c :: line) :: more

@[simp] theorem toList_strip (s : String) : (strip s).toList = trim s.toList := by
  simp [strip]

@[simp] theorem trim_nil : trim [] = [] := rfl

@[simp] theorem lines_nil : lines [] = [] := rfl

/-- Every line break is blank. -/
theorem isBlank_of_isLineBreak {c : Char} (h : isLineBreak c = true) : isBlank c = true := by
  simp only [isLineBreak, isBlank, Bool.or_eq_true, Bool.and_eq_true, decide_eq_true_eq,
    beq_iff_eq] at h ⊢
  omega

end TeamLegality.Text

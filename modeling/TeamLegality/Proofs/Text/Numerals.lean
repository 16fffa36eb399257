import TeamLegality.Proofs.Text.Integers

/-!
# Numerals — integers as they are written in plain digits

A numeral is an optional minus and ASCII digits, not too many of them.  It is read back as its
value, also behind blanks (`Numeral.integer?_chars`).
-/

namespace TeamLegality.Text

/-- An integer in ASCII digits. -/
structure Numeral where
  negative : Bool
  digits : List Char
  ne_nil : digits ≠ []
  ascii : digits.all Char.isDigit = true
  short : digits.length ≤ maxDigits

namespace Numeral

variable {c : Char} {pre : List Char}

/-- The text of a numeral. -/
def chars (n : Numeral) : List Char := if n.negative then '-' :: n.digits else n.digits

/-- The integer that a numeral writes. -/
def value (n : Numeral) : Int := signed n.negative (digitsValue n.digits)

variable (n : Numeral)

theorem charIsDigit_of_mem (h : c ∈ n.digits) : c.isDigit = true := List.all_eq_true.mp n.ascii c h

theorem isDecimal_of_mem (h : c ∈ n.digits) : isDecimal c = true := by
  rw [isDecimal, decimalValue?_of_isDigit (n.charIsDigit_of_mem h)]
  rfl

theorem isDigit_digits : n.digits.all isDigit = true :=
  List.all_eq_true.mpr fun _ h => isDigit_of_charIsDigit (n.charIsDigit_of_mem h)

theorem minus_notMem_digits : '-' ∉ n.digits :=
  notMem_of_isDigit n.isDigit_digits (by decide)

theorem isBlank_of_mem_chars (h : c ∈ n.chars) : isBlank c = false := by
  have hdigit : ∀ c ∈ n.digits, isBlank c = false := fun c hc =>
    isBlank_of_isDigit (isDigit_of_charIsDigit (n.charIsDigit_of_mem hc))
  unfold chars at h
  split_ifs at h
  · rcases List.mem_cons.mp h with rfl | h
    · decide
    · exact hdigit c h
  · exact hdigit c h

theorem chars_ne_nil : n.chars ≠ [] := by
  unfold chars
  split_ifs
  · exact List.cons_ne_nil _ _
  · exact n.ne_nil

theorem splitSign_chars : splitSign n.chars = (n.negative, n.digits) := by
  unfold chars
  cases hsign : n.negative with
  | true => rfl
  | false => exact splitSign_of_isDigit n.isDigit_digits

theorem ofDigits_digits : ofDigits (n.digits.map digitValue) = digitsValue n.digits := by
  have hvalue : ∀ c ∈ n.digits, digitValue c = c.toNat - 48 := by
    intro c hc
    rw [digitValue, decimalValue?_of_isDigit (n.charIsDigit_of_mem hc)]
    rfl
  rw [digitsValue, List.map_congr_left hvalue]

theorem trimBy_chars (hpre : ∀ c ∈ pre, isNumberBlank c = true) :
    trimBy isNumberBlank (pre ++ n.chars) = n.chars := by
  have hblank : ∀ c ∈ n.chars, ¬ isNumberBlank c = true := by
    intro c hc
    simp [isNumberBlank, n.isBlank_of_mem_chars hc]
  have hfront : n.chars.dropWhile isNumberBlank = n.chars :=
    List.dropWhile_eq_self_iff.mpr fun _ => hblank _ (List.getElem_mem _)
  have hback : n.chars.rdropWhile isNumberBlank = n.chars :=
    List.rdropWhile_eq_self_iff.mpr fun _ => hblank _ (List.getLast_mem _)
  show ((pre ++ n.chars).dropWhile isNumberBlank).rdropWhile isNumberBlank = n.chars
  rw [List.dropWhile_append_of_pos hpre, hfront, hback]

/-- **A numeral is read back.** -/
theorem integer?_chars (hpre : ∀ c ∈ pre, isNumberBlank c = true) :
    integer? (pre ++ n.chars) = some n.value := by
  have hunder : '_' ∉ n.digits := notMem_of_isDigit n.isDigit_digits (by decide)
  have hdecimal : n.digits.all isDecimal = true :=
    List.all_eq_true.mpr fun c h => n.isDecimal_of_mem h
  have hrun : digitRun? decimalValue? n.digits = some (n.digits.map digitValue) := by
    rw [digitRun?_of_notMem n.ne_nil hunder, if_pos hdecimal]
  have hshort : (n.digits.map digitValue).length ≤ maxDigits := by
    rw [List.length_map]
    exact n.short
  unfold integer?
  rw [n.trimBy_chars hpre, n.splitSign_chars]
  simp only [hrun, Option.bind_eq_bind, Option.bind_some]
  rw [if_pos hshort, n.ofDigits_digits]
  rfl

end Numeral

end TeamLegality.Text

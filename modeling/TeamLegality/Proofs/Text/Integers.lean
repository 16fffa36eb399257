import TeamLegality.Text.Blank
import TeamLegality.Text.Integer
import Mathlib.Data.List.DropRight
import Mathlib.Data.Nat.Digits.Defs
import Mathlib.Tactic.SplitIfs

/-!
# Integers — which runs of digits are numbers

A run of digits is a number unless it holds a digit that is not decimal or is too long
(`integer?_eq_none_iff`).  The numbers that come of it are the naturals with at most `maxDigits`
digits (`bounds_of_integer?`), and printing one of these gives a run that is read back
(`integer?_repr`).
-/

namespace TeamLegality.Text

variable {c : Char} {cs : List Char} {d n : Nat}

/-! ### Digits -/

theorem decimalValue?_lt (h : decimalValue? c = some d) : d < 10 := by
  unfold decimalValue? at h
  obtain ⟨z, hz, rfl⟩ := Option.map_eq_some_iff.mp h
  have hrange := List.find?_some hz
  simp only [Bool.and_eq_true, decide_eq_true_eq] at hrange
  omega

/-- The first block of digits is that of ASCII. -/
theorem decimalValue?_of_isDigit (h : c.isDigit = true) :
    decimalValue? c = some (c.toNat - '0'.toNat) := by
  have hrange : 48 ≤ c.toNat ∧ c.toNat ≤ 57 := by
    simpa [Char.isDigit, UInt32.le_iff_toNat_le] using h
  have hzeros : decimalZeros = 48 :: decimalZeros.tail := rfl
  rw [decimalValue?, hzeros, List.find?_cons_of_pos]
  · rfl
  · simp only [Bool.and_eq_true, decide_eq_true_eq]
    omega

theorem isDigit_of_charIsDigit (h : c.isDigit = true) : isDigit c = true := by
  unfold isDigit isDecimal
  rw [decimalValue?_of_isDigit h]
  rfl

/-- No blank is a digit. -/
theorem isBlank_of_isDigit (h : isDigit c = true) : isBlank c = false := by
  by_contra hb
  have hcode : c.toNat ∈ [0x09, 0x0a, 0x0b, 0x0c, 0x0d, 0x1c, 0x1d, 0x1e, 0x1f, 0x20, 0x85, 0xa0,
      0x1680, 0x2000, 0x2001, 0x2002, 0x2003, 0x2004, 0x2005, 0x2006, 0x2007, 0x2008, 0x2009, 0x200a,
      0x2028, 0x2029, 0x202f, 0x205f, 0x3000] := by
    simp only [isBlank, Bool.not_eq_false, Bool.or_eq_true, Bool.and_eq_true, decide_eq_true_eq,
      beq_iff_eq] at hb
    simp only [List.mem_cons, List.not_mem_nil, or_false]
    omega
  have hnone : ∀ k ∈ [0x09, 0x0a, 0x0b, 0x0c, 0x0d, 0x1c, 0x1d, 0x1e, 0x1f, 0x20, 0x85, 0xa0,
      0x1680, 0x2000, 0x2001, 0x2002, 0x2003, 0x2004, 0x2005, 0x2006, 0x2007, 0x2008, 0x2009, 0x200a,
      0x2028, 0x2029, 0x202f, 0x205f, 0x3000], isDigit (Char.ofNat k) = false := by decide
  have hc := hnone c.toNat hcode
  rw [Char.ofNat_toNat, h] at hc
  cases hc

/-! ### Runs of digits -/

/-- The decimal value of a digit, zero for every other character. -/
def digitValue (c : Char) : Nat := (decimalValue? c).getD 0

theorem digitValue_lt (c : Char) : digitValue c < 10 := by
  unfold digitValue
  cases h : decimalValue? c with
  | none => decide
  | some d => exact decimalValue?_lt h

theorem digitRun?_of_notMem (hne : cs ≠ []) (h : '_' ∉ cs) : digitRun? decimalValue? cs
    = if cs.all isDecimal then some (cs.map digitValue) else none := by
  induction cs using digitRun?.induct with
  | case1 => exact absurd rfl hne
  | case2 c =>
    cases hc : decimalValue? c <;> simp [digitRun?, isDecimal, digitValue, hc]
  | case3 c rest ih => simp at h
  | case4 c rest hrest hunder ih =>
    obtain ⟨-, h⟩ := not_or.mp (mt List.mem_cons.mpr h)
    have hstep : digitRun? decimalValue? (c :: rest) = (decimalValue? c).bind fun d =>
        (digitRun? decimalValue? rest).bind fun ds => some (d :: ds) := by
      rw [digitRun?.eq_4 _ _ _ hrest hunder]
      rfl
    rw [hstep, ih hrest h]
    cases hc : decimalValue? c <;> by_cases hall : rest.all isDecimal <;>
      simp [isDecimal, digitValue, hc, hall]

section Digits

variable (hdigits : cs.all isDigit = true) (hne : cs ≠ [])
include hdigits

theorem trimBy_of_isDigit : trimBy isNumberBlank cs = cs := by
  have hblank : ∀ c ∈ cs, ¬ isNumberBlank c = true := by
    intro c hc
    simp [isNumberBlank, isBlank_of_isDigit (List.all_eq_true.mp hdigits c hc)]
  have hfront : cs.dropWhile isNumberBlank = cs :=
    List.dropWhile_eq_self_iff.mpr fun _ => hblank _ (List.getElem_mem _)
  have hback : cs.rdropWhile isNumberBlank = cs :=
    List.rdropWhile_eq_self_iff.mpr fun _ => hblank _ (List.getLast_mem _)
  show (cs.dropWhile isNumberBlank).rdropWhile isNumberBlank = cs
  rw [hfront, hback]

theorem notMem_of_isDigit (hc : isDigit c = false) : c ∉ cs := by
  intro hmem
  rw [List.all_eq_true.mp hdigits c hmem] at hc
  cases hc

theorem splitSign_of_isDigit : splitSign cs = (false, cs) := by
  unfold splitSign
  split
  · exact absurd List.mem_cons_self (notMem_of_isDigit hdigits (by decide))
  · exact absurd List.mem_cons_self (notMem_of_isDigit hdigits (by decide))
  · rfl

include hne

/-- **What a run of digits denotes**: the number of its values, if all have one and they are not too
many. -/
theorem integer?_of_isDigit : integer? cs
    = if cs.all isDecimal ∧ cs.length ≤ maxDigits then some (ofDigits (cs.map digitValue) : Int)
      else none := by
  have hunder : '_' ∉ cs := notMem_of_isDigit hdigits (by decide)
  unfold integer?
  rw [trimBy_of_isDigit hdigits, splitSign_of_isDigit hdigits]
  simp only [digitRun?_of_notMem hne hunder]
  by_cases hall : cs.all isDecimal <;> simp [hall, signed]

/-- A run of digits is no number if a digit is not decimal or the digits are too many. -/
theorem integer?_eq_none_iff : integer? cs = none ↔
    (∃ c ∈ cs, isDecimal c = false) ∨ maxDigits < cs.length := by
  rw [integer?_of_isDigit hdigits hne]
  by_cases hall : cs.all isDecimal
  · have hnone : ¬ ∃ c ∈ cs, isDecimal c = false := by
      rintro ⟨c, hc, hdec⟩
      rw [List.all_eq_true.mp hall c hc] at hdec
      cases hdec
    simp [hall, hnone]
  · have hsome : ∃ c ∈ cs, isDecimal c = false := by simpa using hall
    simp [hall, hsome]

end Digits

/-! ### Numbers and their digits -/

theorem ofDigits_lt {ds : List Nat} (h : ∀ d ∈ ds, d < 10) : ofDigits ds < 10 ^ ds.length := by
  induction ds using List.reverseRecOn with
  | nil => decide
  | append_singleton ds d ih =>
    obtain ⟨hds, hd⟩ := List.forall_mem_append.mp h
    have hlt := ih hds
    have hd := hd d (List.mem_singleton_self d)
    have hstep : ofDigits (ds ++ [d]) = 10 * ofDigits ds + d := by
      simp [ofDigits, List.foldl_append]
    rw [hstep, List.length_append, List.length_singleton, Nat.pow_succ]
    omega

/-- A run of digits denotes a natural number that has at most `maxDigits` digits. -/
theorem bounds_of_integer? {i : Int} (hdigits : cs.all isDigit = true) (hne : cs ≠ [])
    (h : integer? cs = some i) : ∃ n : Nat, i = n ∧ n < 10 ^ maxDigits := by
  rw [integer?_of_isDigit hdigits hne] at h
  split_ifs at h with hlimits
  cases h
  have hlt : ofDigits (cs.map digitValue) < 10 ^ (cs.map digitValue).length :=
    ofDigits_lt (by simp [digitValue_lt])
  rw [List.length_map] at hlt
  exact ⟨_, rfl, hlt.trans_le (Nat.pow_le_pow_right (by decide) hlimits.2)⟩

theorem charIsDigit_of_mem_repr (h : c ∈ (Nat.repr n).toList) : c.isDigit = true := by
  rw [Nat.toList_repr] at h
  exact Nat.isDigit_of_mem_toDigits (by decide) (by decide) h

theorem isDigit_of_mem_repr (h : c ∈ (Nat.repr n).toList) : isDigit c = true :=
  isDigit_of_charIsDigit (charIsDigit_of_mem_repr h)

theorem toList_repr_ne_nil (n : Nat) : (Nat.repr n).toList ≠ [] := by
  rw [Nat.toList_repr]
  exact Nat.toDigits_ne_nil

theorem ofDigits_repr (n : Nat) : ofDigits ((Nat.repr n).toList.map digitValue) = n := by
  have hvalue : ∀ c ∈ (Nat.repr n).toList, digitValue c = c.toNat - '0'.toNat := by
    intro c hc
    rw [digitValue, decimalValue?_of_isDigit (charIsDigit_of_mem_repr hc), Option.getD_some]
  calc ofDigits ((Nat.repr n).toList.map digitValue)
      = ofDigits ((Nat.repr n).toList.map fun c => c.toNat - '0'.toNat) := by
        rw [List.map_congr_left hvalue]
    _ = Nat.ofDigitChars 10 (Nat.repr n).toList 0 := by
        rw [Nat.ofDigitChars_eq_foldl, ofDigits, List.foldl_map]
    _ = n := by rw [Nat.toList_repr, Nat.ofDigitChars_ten_toDigits]

/-- **A printed number is read back**, if it is not too long. -/
theorem integer?_repr (h : n < 10 ^ maxDigits) : integer? (Nat.repr n).toList = some (n : Int) := by
  have hdigits : (Nat.repr n).toList.all isDigit = true :=
    List.all_eq_true.mpr fun _ => isDigit_of_mem_repr
  have hdecimal : (Nat.repr n).toList.all isDecimal = true := by
    rw [List.all_eq_true]
    intro c hc
    rw [isDecimal, decimalValue?_of_isDigit (charIsDigit_of_mem_repr hc)]
    rfl
  have hlength : (Nat.repr n).toList.length ≤ maxDigits := by
    rw [Nat.toList_repr]
    exact (Nat.length_toDigits_le_iff (by decide) (by decide)).mpr h
  rw [integer?_of_isDigit hdigits (toList_repr_ne_nil n), if_pos ⟨hdecimal, hlength⟩, ofDigits_repr]

end TeamLegality.Text

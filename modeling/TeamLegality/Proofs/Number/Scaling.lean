import TeamLegality.Number.Binary64
import Mathlib.Algebra.Ring.Nat
import Mathlib.Tactic.SplitIfs

/-!
# Scaling — which numbers stay finite when they are multiplied

A quotient rounds to a finite number if it is at most the largest one (`exists_ofRatio_eq_finite`).
Multiplying by sixteen moves the exponent by four, so it keeps numbers below `2 ^ 1020` finite
(`exists_scale_eq_finite`).
-/

namespace TeamLegality

theorem roundDiv_le {n d k : Nat} (hd : 0 < d) (h : n ≤ k * d) : roundDiv n d ≤ k := by
  have hq : n / d ≤ k := Nat.div_le_of_le_mul (by rwa [Nat.mul_comm])
  unfold roundDiv
  dsimp only
  by_cases heq : n / d = k
  · -- The quotient is exact, and nothing is rounded.
    have hr : n % d = 0 := by
      have hsplit := Nat.div_add_mod n d
      rw [heq, Nat.mul_comm] at hsplit
      omega
    rw [hr, if_pos (by omega)]
    exact hq
  · split_ifs <;> omega

theorem roundDiv_lt {n d k scale : Nat} (hd : 0 < d) (hscale : 0 < scale) (hk : 0 < k)
    (h : n ≤ (k - 1) * scale * d) : roundDiv n (d * scale) < k := by
  have hle : n ≤ (k - 1) * (d * scale) := by rwa [Nat.mul_comm d, ← Nat.mul_assoc]
  have hround := roundDiv_le (Nat.mul_pos hd hscale) hle
  omega

theorem mul_le_of_lt {n k a scale : Nat} (hn : n < k) (ha : a ≤ scale) :
    n * a ≤ (k - 1) * scale :=
  Nat.mul_le_mul (Nat.le_pred_of_lt hn) ha

namespace Binary64

variable {negative : Bool} {mantissa num den k : Nat} {exponent : Int}

/-- The largest finite number, a whole one. -/
def largest : Nat := (2 ^ precision - 1) * 2 ^ maxExponent.toNat

/-- A number of 53 bits whose size is below `2 ^ 1020`. -/
def IsModerate : Binary64 → Prop
  | .finite _ mantissa exponent => mantissa < 2 ^ precision ∧ exponent + 4 ≤ maxExponent
  | _ => False

theorem exists_pack_eq_finite
    (h : exponent < maxExponent ∨ exponent = maxExponent ∧ mantissa < 2 ^ precision) :
    ∃ m e, pack negative mantissa exponent = .finite negative m e := by
  unfold pack
  simp only [Nat.pow_eq]
  by_cases hcarry : mantissa = 2 ^ precision
  · have hexponent : ¬ maxExponent < exponent + 1 := by omega
    simp only [hcarry, if_true, if_neg hexponent]
    split_ifs
    · exact ⟨_, _, rfl⟩
    · exact ⟨_, _, rfl⟩
  · have hexponent : ¬ maxExponent < exponent := by omega
    simp only [if_neg hcarry, if_neg hexponent]
    split_ifs
    · exact ⟨_, _, rfl⟩
    · exact ⟨_, _, rfl⟩

theorem scaled_lt (hexponent : 0 ≤ exponent) (hden : 0 < den)
    (h : num ≤ (2 ^ precision - 1) * 2 ^ exponent.toNat * den) :
    scaled num den exponent < 2 ^ precision := by
  rw [scaled, if_pos hexponent, Nat.pow_eq]
  exact roundDiv_lt hden (Nat.two_pow_pos _) (Nat.two_pow_pos _) h

theorem log2_le (hnum : num ≠ 0) (h : num ≤ largest * den) :
    num.log2 ≤ den.log2 + precision + maxExponent.toNat := by
  have hlargest : largest ≤ 2 ^ precision * 2 ^ maxExponent.toNat :=
    Nat.mul_le_mul_right _ (Nat.sub_le _ _)
  have hden : den < 2 ^ (den.log2 + 1) := Nat.lt_log2_self
  have hlt : num < 2 ^ (den.log2 + precision + maxExponent.toNat + 1) := calc
    num ≤ largest * den := h
    _ ≤ 2 ^ precision * 2 ^ maxExponent.toNat * den := Nat.mul_le_mul_right den hlargest
    _ = 2 ^ (precision + maxExponent.toNat) * den := by rw [← Nat.pow_add]
    _ < 2 ^ (precision + maxExponent.toNat) * 2 ^ (den.log2 + 1) :=
      Nat.mul_lt_mul_of_pos_left hden (Nat.two_pow_pos _)
    _ = 2 ^ (den.log2 + precision + maxExponent.toNat + 1) := by
      rw [← Nat.pow_add]
      congr 1
      omega
  exact Nat.lt_succ_iff.mp ((Nat.log2_lt hnum).mpr hlt)

/-- **Quotients up to the largest number are finite.** -/
theorem exists_ofRatio_eq_finite (hden : 0 < den) (h : num ≤ largest * den) :
    ∃ m e, ofRatio negative num den = .finite negative m e := by
  by_cases hnum : num = 0
  · rw [ofRatio, if_pos hnum]
    exact ⟨_, _, rfl⟩
  · have hlog := log2_le hnum h
    have htop : scaled num den maxExponent < 2 ^ precision := scaled_lt (by decide) hden h
    have hmin : minExponent ≤ maxExponent := by decide
    have hmax : (maxExponent.toNat : Int) = maxExponent := by decide
    rw [ofRatio, if_neg hnum]
    dsimp only
    generalize hlow : max ((num.log2 : Int) - den.log2 - precision) minExponent = low
    have hle : low ≤ maxExponent := by omega
    split_ifs with hwide
    · -- The mantissa had too many bits, so the exponent was not yet the largest.
      have hne : low ≠ maxExponent := by
        rintro rfl
        exact absurd hwide (Nat.not_lt_of_lt htop)
      refine exists_pack_eq_finite ?_
      by_cases heq : low + 1 = maxExponent
      · exact .inr ⟨heq, heq ▸ htop⟩
      · exact .inl (by omega)
    · refine exists_pack_eq_finite ?_
      by_cases heq : low = maxExponent
      · exact .inr ⟨heq, heq ▸ htop⟩
      · exact .inl (by omega)

/-- Sixteen times a moderate number is finite. -/
theorem exists_scale_eq_finite {x : Binary64} (h : x.IsModerate) :
    ∃ negative m e, x.scale 16 = .finite negative m e := by
  cases x with
  | infinite negative => exact absurd h id
  | notANumber => exact absurd h id
  | finite negative mantissa exponent =>
    obtain ⟨hmantissa, hexponent⟩ := h
    have hsixteen (n : Nat) (hn : n + 4 ≤ maxExponent.toNat) :
        2 ^ n * 16 ≤ 2 ^ maxExponent.toNat := calc
      2 ^ n * 16 = 2 ^ (n + 4) := (Nat.pow_add 2 n 4).symm
      _ ≤ 2 ^ maxExponent.toNat := Nat.pow_le_pow_right (by decide) hn
    have hbound : (ratio mantissa exponent).1 * 16 ≤ largest * (ratio mantissa exponent).2
        ∧ 0 < (ratio mantissa exponent).2 := by
      unfold ratio
      split_ifs with hsign
      · refine ⟨?_, Nat.one_pos⟩
        rw [Nat.mul_one, Nat.mul_assoc]
        exact mul_le_of_lt hmantissa (hsixteen exponent.toNat (by omega))
      · have hpos : 0 < 2 ^ (-exponent).toNat := Nat.two_pow_pos _
        have hle : mantissa * 16 ≤ largest := mul_le_of_lt hmantissa (hsixteen 0 (by decide))
        exact ⟨Nat.le_trans hle (Nat.le_mul_of_pos_right largest hpos), hpos⟩
    exact ⟨negative, exists_ofRatio_eq_finite hbound.2 hbound.1⟩

end Binary64

end TeamLegality

import Mathlib.Algebra.Order.Field.Power
import Mathlib.Data.Rat.Cast.Order
import Mathlib.Tactic.NormNum
import Interaction.Proofs.Integers

/-!
# The value of a binary64 number

An integer below `2 ^ 53` is a number as it is (`value_ofNat`). One that is not below it may be
rounded, but never to a number below it (`isLarge_ofNat`). So a number that came from an integer
and is below `2 ^ 53` is the integer (`lt_of_value_ofNat_lt`).
-/

namespace Interaction
namespace Binary64

/-- The number as a fraction. -/
def value (x : Binary64) : ℚ :=
  let size := (x.significand : ℚ) * 2 ^ x.exponent
  if x.negative then -size else size

section
variable {n : Nat}

theorem value_ofNat (h : n < 2 ^ 53) : (ofNat n).value = n := by
  rcases Nat.eq_zero_or_pos n with rfl | hn
  · have hzero : ofNat 0 = zero false := rfl
    simp [hzero, zero, value]
  · have hpow : (2 : ℚ) ^ shift n ≠ 0 := pow_ne_zero _ (by norm_num)
    rw [ofNat_eq hn h, value]
    simp only [Bool.false_eq_true, if_false, Nat.cast_mul, Nat.cast_pow, Nat.cast_ofNat]
    rw [zpow_neg, zpow_natCast, mul_assoc, mul_inv_cancel₀ hpow, mul_one]

/-! ### Large integers -/

theorem le_nearest (num den : Nat) : num / den ≤ nearest num den := by
  unfold nearest
  dsimp only
  split
  · exact Nat.le_refl _
  · split
    · exact Nat.le_succ _
    · split
      · exact Nat.le_refl _
      · exact Nat.le_succ _

theorem two_pow_le_div {j k : Nat} (hn : 0 < n) (h : j + k = n.log2) : 2 ^ j ≤ n / 2 ^ k := by
  rw [Nat.le_div_iff_mul_le (Nat.two_pow_pos k), ← Nat.pow_add, h]
  exact Nat.log2_self_le hn.ne'

theorem exponentOf_large (h : 2 ^ 53 ≤ n) : exponentOf n 1 = ((n.log2 - 52 : Nat) : Int) := by
  have hn : 0 < n := Nat.lt_of_lt_of_le (by decide) h
  have hlog : 53 ≤ n.log2 := (Nat.le_log2 hn.ne').2 h
  have hone : (1 : Nat).log2 = 0 := by decide
  have hguess : max minExponent ((n.log2 : Int) - (1 : Nat).log2 - 53) =
      ((n.log2 - 53 : Nat) : Int) := by
    rw [hone, minExponent]
    omega
  have hquotient : 2 ^ 53 ≤ n / 2 ^ (n.log2 - 53) := two_pow_le_div hn (by omega)
  unfold exponentOf
  dsimp only
  rw [hguess, inUnits_natCast, Nat.one_shiftLeft, Nat.one_mul, if_neg (Nat.not_lt.2 hquotient)]
  omega

/-- The significand is full, and its last bit is worth two at least. -/
structure IsLarge (x : Binary64) : Prop where
  positive : x.negative = false
  full : 2 ^ 52 ≤ x.significand
  coarse : 1 ≤ x.exponent

theorem IsLarge.le_value {x : Binary64} (h : x.IsLarge) : 2 ^ 53 ≤ x.value := by
  have hbits : (2 : ℚ) ^ 52 ≤ (x.significand : ℚ) := by exact_mod_cast h.full
  have hunit : (2 : ℚ) ≤ 2 ^ x.exponent := by
    simpa using zpow_le_zpow_right₀ (by norm_num : (1 : ℚ) ≤ 2) h.coarse
  have hvalue : x.value = (x.significand : ℚ) * 2 ^ x.exponent := by simp [value, h.positive]
  calc (2 : ℚ) ^ 53 = 2 ^ 52 * 2 := by norm_num
    _ ≤ (x.significand : ℚ) * 2 ^ x.exponent :=
      mul_le_mul hbits hunit (by norm_num) (Nat.cast_nonneg _)
    _ = x.value := hvalue.symm

theorem isLarge_ofNat (h : 2 ^ 53 ≤ n) : (ofNat n).IsLarge := by
  have hn : 0 < n := Nat.lt_of_lt_of_le (by decide) h
  have hlog : 53 ≤ n.log2 := (Nat.le_log2 hn.ne').2 h
  have hnearest : 2 ^ 52 ≤ nearest n (2 ^ (n.log2 - 52)) :=
    Nat.le_trans (two_pow_le_div hn (by omega)) (le_nearest _ _)
  have hexponent : (1 : Int) ≤ ((n.log2 - 52 : Nat) : Int) := by omega
  have hlargest : largest.IsLarge := ⟨rfl, by decide, by decide⟩
  unfold ofNat ofRatio?
  rw [if_neg hn.ne', exponentOf_large h]
  dsimp only
  rw [inUnits_natCast, Nat.one_mul]
  dsimp only
  set x : Binary64 := if nearest n (2 ^ (n.log2 - 52)) < 1 <<< 53
    then ⟨false, nearest n (2 ^ (n.log2 - 52)), ((n.log2 - 52 : Nat) : Int)⟩
    else ⟨false, 1 <<< 52, ((n.log2 - 52 : Nat) : Int) + 1⟩ with hx
  have hrounded : x.IsLarge := by
    rw [hx]
    split
    · exact ⟨rfl, hnearest, hexponent⟩
    · have hfull : 2 ^ 52 ≤ 1 <<< 52 := Nat.le_of_eq (Nat.one_shiftLeft 52).symm
      exact ⟨rfl, hfull, Int.le_add_one hexponent⟩
  -- What is beyond the largest number becomes that one.
  split
  · exact hrounded
  · exact hlargest

theorem lt_of_value_ofNat_lt (h : (ofNat n).value < 2 ^ 53) : n < 2 ^ 53 := by
  refine Nat.lt_of_not_le fun hlarge => ?_
  exact absurd (isLarge_ofNat hlarge).le_value (not_le.2 h)

end

end Binary64
end Interaction

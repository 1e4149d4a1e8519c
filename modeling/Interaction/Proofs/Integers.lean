import Mathlib.Data.Nat.Log
import Mathlib.Tactic.Ring
import Interaction.Json.Basic

/-!
# Integers as binary64 numbers

An integer below `2 ^ 53` is a number exactly: `integer` shifts it until it fills the significand,
and that is what any quotient with its value is rounded to (`ofRatio?_mul`). Of the decimals in its
interval only those count that are the integer itself (`holds_interval`), so its shortest decimal is
the integer without some zeros at the end (`exists_shortest`), and it is written with the digits of
the integer (`text_integer`).
-/

namespace Interaction
namespace Binary64

/-- The integer `± n`. -/
def integer (negative : Bool) (n : Nat) : Binary64 := { ofNat n with negative }

/-- How far an integer is shifted to fill the significand. -/
def shift (n : Nat) : Nat := 52 - n.log2

section
variable {n den : Nat}

theorem log2_mul_cases (hn : 0 < n) (hden : 0 < den) :
    (n * den).log2 = n.log2 + den.log2 ∨ (n * den).log2 = n.log2 + den.log2 + 1 := by
  have hlow : 2 ^ (n.log2 + den.log2) ≤ n * den := by
    rw [Nat.pow_add]
    exact Nat.mul_le_mul (Nat.log2_self_le hn.ne') (Nat.log2_self_le hden.ne')
  have hhigh : n * den < 2 ^ (n.log2 + den.log2 + 2) := by
    have heq : n.log2 + den.log2 + 2 = n.log2 + 1 + (den.log2 + 1) := by omega
    rw [heq, Nat.pow_add]
    exact Nat.mul_lt_mul'' Nat.lt_log2_self Nat.lt_log2_self
  have hpos : n * den ≠ 0 := (Nat.mul_pos hn hden).ne'
  have h₁ := (Nat.le_log2 hpos).2 hlow
  have h₂ := (Nat.log2_lt hpos).2 hhigh
  omega

theorem log2_le_of_lt (hn : 0 < n) (h : n < 2 ^ 53) : n.log2 ≤ 52 :=
  Nat.le_of_lt_succ ((Nat.log2_lt hn.ne').2 h)

/-- A shifted integer has 53 bits. -/
theorem shifted_bounds (hn : 0 < n) (h : n < 2 ^ 53) :
    2 ^ 52 ≤ n * 2 ^ shift n ∧ n * 2 ^ shift n < 2 ^ 53 := by
  have hlog := log2_le_of_lt hn h
  have hlow : 2 ^ n.log2 * 2 ^ shift n = 2 ^ 52 := by
    rw [← Nat.pow_add, shift]
    congr 1
    omega
  have hhigh : 2 ^ (n.log2 + 1) * 2 ^ shift n = 2 ^ 53 := by
    rw [← Nat.pow_add, shift]
    congr 1
    omega
  rw [← hlow, ← hhigh]
  exact ⟨Nat.mul_le_mul_right _ (Nat.log2_self_le hn.ne'),
    Nat.mul_lt_mul_of_pos_right Nat.lt_log2_self (Nat.two_pow_pos _)⟩

theorem inUnits_neg (num den k : Nat) : inUnits num den (-(k : Int)) = (num * 2 ^ k, den) := by
  unfold inUnits
  split
  · have hk : k = 0 := by omega
    subst hk
    simp
  · rw [Nat.shiftLeft_eq]
    simp

theorem inUnits_natCast (num den k : Nat) : inUnits num den (k : Int) = (num, den * 2 ^ k) := by
  unfold inUnits
  rw [if_pos (Int.natCast_nonneg k), Int.toNat_natCast, Nat.shiftLeft_eq]

theorem exponentOf_mul (hn : 0 < n) (h : n < 2 ^ 53) (hden : 0 < den) :
    exponentOf (n * den) den = -(shift n : Int) := by
  have hlog := log2_le_of_lt hn h
  obtain ⟨hlow, hhigh⟩ := shifted_bounds hn h
  have hdiv : ∀ k, n * den * 2 ^ k / den = n * 2 ^ k := by
    intro k
    rw [Nat.mul_right_comm, Nat.mul_div_cancel _ hden]
  unfold exponentOf
  rw [Nat.one_shiftLeft]
  rcases log2_mul_cases hn hden with hcase | hcase
  · -- The first guess is one too low, and the quotient has a bit too many.
    have hguess : max minExponent (((n * den).log2 : Int) - den.log2 - 53) =
        -((shift n + 1 : Nat) : Int) := by
      rw [hcase, shift, minExponent]
      omega
    dsimp only
    rw [hguess, inUnits_neg, hdiv, if_neg, shift]
    · omega
    · rw [Nat.pow_succ, ← Nat.mul_assoc]
      omega
  · have hguess : max minExponent (((n * den).log2 : Int) - den.log2 - 53) = -(shift n : Int) := by
      rw [hcase, shift, minExponent]
      omega
    dsimp only
    rw [hguess, inUnits_neg, hdiv, if_pos hhigh]

/-- A quotient whose value is an integer is the integer. -/
theorem ofRatio?_mul (negative : Bool) (hn : 0 < n) (h : n < 2 ^ 53) (hden : 0 < den) :
    ofRatio? negative (n * den) den = some ⟨negative, n * 2 ^ shift n, -(shift n : Int)⟩ := by
  have hnearest : nearest (n * den * 2 ^ shift n) den = n * 2 ^ shift n := by
    rw [Nat.mul_right_comm, nearest_mul _ hden]
  have hlarge : ¬ maxExponent < -(shift n : Int) := by
    rw [maxExponent]
    omega
  unfold ofRatio?
  rw [if_neg (Nat.mul_pos hn hden).ne', exponentOf_mul hn h hden]
  dsimp only
  rw [inUnits_neg]
  dsimp only
  rw [hnearest, Nat.one_shiftLeft, if_pos (shifted_bounds hn h).2]
  exact if_pos (Int.not_lt.1 hlarge)

theorem ofNat_eq (hn : 0 < n) (h : n < 2 ^ 53) :
    ofNat n = ⟨false, n * 2 ^ shift n, -(shift n : Int)⟩ := by
  have hratio := ofRatio?_mul false hn h Nat.one_pos
  rw [Nat.mul_one] at hratio
  rw [ofNat, hratio]
  rfl

theorem integer_eq (negative : Bool) (hn : 0 < n) (h : n < 2 ^ 53) :
    integer negative n = ⟨negative, n * 2 ^ shift n, -(shift n : Int)⟩ := by
  rw [integer, ofNat_eq hn h]

/-- So is every quotient of the value, with its sign. -/
theorem ofRatio?_eq_integer (negative : Bool) (hn : 0 < n) (h : n < 2 ^ 53) (hden : 0 < den) :
    ofRatio? negative (n * den) den = some (integer negative n) := by
  rw [ofRatio?_mul negative hn h hden, integer_eq negative hn h]

/-- Division by an integer is exact where it leaves no rest. -/
theorem div?_integer {d : Nat} (negative : Bool) (hn : 0 < n) (hd : 0 < d) (h : n * d < 2 ^ 53) :
    (integer negative (n * d)).div? (integer false d) = some (integer negative n) := by
  have hle : n ≤ n * d := Nat.le_mul_of_pos_right n hd
  have hdle : d ≤ n * d := Nat.le_mul_of_pos_left d hn
  have hsplit : ∀ s t, n * d * 2 ^ s * 2 ^ t = n * (d * 2 ^ (s + t)) := by
    intro s t
    rw [Nat.pow_add]
    ring
  have hexact : ∀ s, ofRatio? negative (n * (d * 2 ^ s)) (d * 2 ^ s) = some (integer negative n) :=
    fun s => ofRatio?_eq_integer negative hn (Nat.lt_of_le_of_lt hle h)
      (Nat.mul_pos hd (Nat.two_pow_pos s))
  rw [integer_eq negative (Nat.mul_pos hn hd) h, integer_eq false hd (Nat.lt_of_le_of_lt hdle h),
    div?, ofScaled?]
  dsimp only
  split
  · rename_i hnonneg
    have hsum : shift (n * d) + (-(shift (n * d) : Int) - -(shift d : Int)).toNat = shift d := by
      omega
    rw [Nat.shiftLeft_eq, hsplit, hsum, hexact]
  · rename_i hneg
    have hsum : shift d + (-(-(shift (n * d) : Int) - -(shift d : Int))).toNat =
        shift (n * d) := by omega
    rw [Nat.shiftLeft_eq, Nat.mul_assoc d, ← Nat.pow_add, hsum, Nat.mul_assoc n, hexact]

end

/-- The value of the number is `± n`. -/
def IsInteger (x : Binary64) (n : Nat) : Prop :=
  x.significand * 2 ^ x.exponent.toNat = n * 2 ^ (-x.exponent).toNat

instance : DecidablePred Canonical := fun _ => inferInstanceAs (Decidable (_ ∧ _ ∧ _ ∧ _))

instance (x : Binary64) (n : Nat) : Decidable (x.IsInteger n) := inferInstanceAs (Decidable (_ = _))

theorem two_mul_le_mul_pow {n j k : Nat} (h : j < k) : 2 * (n * 2 ^ j) ≤ n * 2 ^ k := by
  have hpow : 2 ^ (j + 1) ≤ 2 ^ k := Nat.pow_le_pow_right (by decide) h
  have hmul := Nat.mul_le_mul_left n hpow
  rw [Nat.pow_succ, ← Nat.mul_assoc] at hmul
  omega

/-- There is only one number with the value of an integer. -/
theorem IsInteger.eq_integer {x : Binary64} {n : Nat} (h : x.IsInteger n) (hx : x.Canonical)
    (hn : n < 2 ^ 52) : x = integer x.negative n := by
  obtain ⟨negative, m, e⟩ := x
  obtain ⟨hlt, -, -, hfull⟩ := hx
  rw [Nat.one_shiftLeft] at hlt hfull
  simp only [IsInteger] at h hlt hfull
  rcases Nat.eq_zero_or_pos n with rfl | hpos
  · have hm : m = 0 := by simpa using h
    subst hm
    rcases hfull with hfull | rfl
    · cases hfull
    · rfl
  · -- A full significand without a negative exponent is `2 ^ 52` at least.
    have hneg : e < 0 := by
      refine Int.not_le.1 fun hnonneg => ?_
      have hunit : (-e).toNat = 0 := by omega
      have hle : m ≤ m * 2 ^ e.toNat := Nat.le_mul_of_pos_right m (Nat.two_pow_pos _)
      have hmin : e ≠ minExponent := by
        rw [minExponent]
        omega
      have hbig := hfull.resolve_right hmin
      rw [hunit] at h
      omega
    obtain ⟨k, rfl⟩ : ∃ k : Nat, e = -(k : Int) := ⟨e.natAbs, by omega⟩
    have hk : (-(-(k : Int))).toNat = k := by omega
    have hone : (-(k : Int)).toNat = 0 := by omega
    rw [hk, hone, Nat.pow_zero, Nat.mul_one] at h
    subst h
    have hbits : 2 ^ 52 ≤ n * 2 ^ k := by
      refine hfull.resolve_right fun hmin => ?_
      have hlarge : 52 < k := by
        rw [minExponent] at hmin
        omega
      have := two_mul_le_mul_pow (n := n) hlarge
      omega
    obtain ⟨hlow, hhigh⟩ := shifted_bounds hpos (Nat.lt_trans hn (by decide))
    have hshift : k = shift n := by
      rcases Nat.lt_trichotomy k (shift n) with hless | heq | hmore
      · have := two_mul_le_mul_pow (n := n) hless
        omega
      · exact heq
      · have := two_mul_le_mul_pow (n := n) hmore
        omega
    rw [integer_eq negative hpos (Nat.lt_trans hn (by decide)), hshift]

/-! ### Decimals of integers -/

/-- `2 ^ s` units of the interval are one. It is around the integer `n` and reaches no other one. -/
structure Interval.Around (i : Interval) (n s : Nat) : Prop where
  pos : 0 < s
  exponent : i.exponent = -(s : Int)
  value : i.value = n * 2 ^ s
  low_lt : i.low < n * 2 ^ s
  lt_high : n * 2 ^ s < i.high
  lt_low : n * 2 ^ s < i.low + 2 ^ s
  high_lt : i.high < n * 2 ^ s + 2 ^ s

namespace Interval.Around
variable {i : Interval} {n s : Nat} (h : i.Around n s)
include h

theorem scale_eq (k : Nat) : i.scale k = (1, 10 ^ k * 2 ^ s) := by
  have hneg : ¬ 0 ≤ i.exponent := by
    rw [h.exponent]
    have := h.pos
    omega
  have hunits : 1 <<< i.exponent.natAbs = 2 ^ s := by
    rw [h.exponent, Int.natAbs_neg, Int.natAbs_natCast, Nat.one_shiftLeft]
  unfold scale
  dsimp only
  rw [hunits, if_neg hneg, if_neg hneg, if_pos (Int.natCast_nonneg k),
    if_pos (Int.natCast_nonneg k), Int.natAbs_natCast, Nat.one_mul, Nat.mul_comm]
  rfl

/-- Of the decimals with no digits behind the point only the integer itself is in the interval. -/
theorem holds_iff (d k : Nat) : i.holds d k = true ↔ d * 10 ^ k = n := by
  have hscaled : d * (10 ^ k * 2 ^ s) = d * 10 ^ k * 2 ^ s := (Nat.mul_assoc _ _ _).symm
  have hlow : d * 10 ^ k < n → d * 10 ^ k * 2 ^ s < i.low := by
    intro hlt
    have hle := Nat.mul_le_mul_right (2 ^ s) (Nat.succ_le_of_lt hlt)
    rw [Nat.succ_mul] at hle
    have := h.lt_low
    omega
  have hhigh : n < d * 10 ^ k → i.high < d * 10 ^ k * 2 ^ s := by
    intro hlt
    have hle := Nat.mul_le_mul_right (2 ^ s) (Nat.succ_le_of_lt hlt)
    rw [Nat.succ_mul] at hle
    have := h.high_lt
    omega
  unfold holds
  rw [h.scale_eq]
  dsimp only
  rw [hscaled, Nat.mul_one, Nat.mul_one]
  constructor
  · intro hin
    have hbounds : i.low ≤ d * 10 ^ k * 2 ^ s ∧ d * 10 ^ k * 2 ^ s ≤ i.high := by
      split at hin <;> simp only [Bool.and_eq_true, decide_eq_true_eq] at hin <;> omega
    rcases Nat.lt_trichotomy (d * 10 ^ k) n with hlt | heq | hgt
    · have := hlow hlt
      omega
    · exact heq
    · have := hhigh hgt
      omega
  · rintro rfl
    have := h.low_lt
    have := h.lt_high
    split <;> simp only [Bool.and_eq_true, decide_eq_true_eq] <;> omega

theorem pick?_eq (k : Nat) : i.pick? k = if 10 ^ k ∣ n then some (n / 10 ^ k) else none := by
  have hpos : 0 < 10 ^ k := Nat.pow_pos (by decide)
  have hfloor : n * 2 ^ s / (10 ^ k * 2 ^ s) = n / 10 ^ k :=
    Nat.mul_div_mul_right _ _ (Nat.two_pow_pos s)
  have hnext : i.holds (n / 10 ^ k + 1) k = false := by
    refine Bool.eq_false_iff.2 fun hin => ?_
    have heq := (h.holds_iff _ _).1 hin
    have hlt := Nat.lt_mul_div_succ n hpos
    rw [Nat.mul_comm] at heq
    omega
  unfold pick?
  rw [h.scale_eq]
  dsimp only
  rw [Nat.mul_one, h.value, hfloor, hnext]
  by_cases hdvd : 10 ^ k ∣ n
  · rw [if_pos hdvd, (h.holds_iff _ _).2 (Nat.div_mul_cancel hdvd)]
  · have hout : i.holds (n / 10 ^ k) k = false := by
      refine Bool.eq_false_iff.2 fun hin => hdvd ?_
      exact Dvd.intro_left _ ((h.holds_iff _ _).1 hin)
    rw [if_neg hdvd, hout]

/-- The search stops at some power of ten that divides the integer, at the latest at one. -/
theorem search_eq (fuel : Nat) : ∀ j : Nat, j < fuel → ∃ k : Nat, 10 ^ k ∣ n ∧
    i.search fuel (j : Nat) = some ⟨n / 10 ^ k, k⟩ := by
  induction fuel with
  | zero => intro j hj; cases hj
  | succ fuel ih =>
    intro j hj
    rw [search, h.pick?_eq]
    by_cases hdvd : 10 ^ j ∣ n
    · rw [if_pos hdvd]
      exact ⟨j, hdvd, rfl⟩
    · rw [if_neg hdvd]
      cases j with
      | zero => exact absurd (Nat.one_dvd n) hdvd
      | succ j =>
        have hpred : ((j + 1 : Nat) : Int) - 1 = (j : Nat) := by omega
        rw [hpred]
        exact ih j (Nat.lt_of_succ_lt_succ hj)

end Interval.Around

section
variable {n : Nat} (negative : Bool) (hn : 0 < n) (h : n < 2 ^ 53)
include hn h

theorem around_interval : (integer negative n).interval.Around n (shift n + 2) := by
  have hlow := (shifted_bounds hn h).1
  have hunits : n * 2 ^ (shift n + 2) = 4 * (n * 2 ^ shift n) := by
    rw [Nat.pow_add]
    ring
  have hone : 2 ^ (shift n + 2) = 4 * 2 ^ shift n := by
    rw [Nat.pow_add]
    ring
  have hpos := Nat.two_pow_pos (shift n)
  rw [integer_eq negative hn h, interval]
  constructor
  · omega
  · show -(shift n : Int) - 2 = _
    omega
  · exact hunits.symm
  · show 4 * (n * 2 ^ shift n) - (if _ then 1 else 2) < _
    rw [hunits]
    split <;> omega
  · rw [hunits]
    show _ < 4 * (n * 2 ^ shift n) + 2
    omega
  · show _ < 4 * (n * 2 ^ shift n) - (if _ then 1 else 2) + _
    rw [hunits, hone]
    split <;> omega
  · show 4 * (n * 2 ^ shift n) + 2 < _
    rw [hunits, hone]
    omega

theorem decimalTop_lt : ∃ j : Nat, j < 20 ∧ (integer negative n).decimalTop = (j : Nat) := by
  obtain ⟨hlow, hhigh⟩ := shifted_bounds hn h
  have hlog : (n * 2 ^ shift n).log2 = 52 :=
    (Nat.log2_eq_iff (Nat.ne_of_gt (Nat.lt_of_lt_of_le (by decide) hlow))).2 ⟨hlow, hhigh⟩
  have hshift : shift n ≤ 52 := Nat.sub_le _ _
  rw [integer_eq negative hn h, decimalTop]
  dsimp only
  rw [hlog]
  refine ⟨(((52 : Nat) + -(shift n : Int) + 1) * 30103 / 100000 + 1).toNat, ?_, ?_⟩ <;> omega

/-- The shortest decimal of an integer is the integer without some zeros at the end. -/
theorem exists_shortest :
    ∃ k : Nat, 10 ^ k ∣ n ∧ (integer negative n).shortest = ⟨n / 10 ^ k, k⟩ := by
  obtain ⟨j, hj, htop⟩ := decimalTop_lt negative hn h
  obtain ⟨k, hdvd, hsearch⟩ := (around_interval negative hn h).search_eq 20 j hj
  refine ⟨k, hdvd, ?_⟩
  have hpos : (integer negative n).significand ≠ 0 := by
    rw [integer_eq negative hn h]
    exact (Nat.mul_pos hn (Nat.two_pow_pos _)).ne'
  rw [shortest, if_neg hpos, htop, hsearch]
  rfl

end

theorem toDigits_mul_pow {d : Nat} (hd : 0 < d) (k : Nat) :
    Nat.toDigits 10 (d * 10 ^ k) = Nat.toDigits 10 d ++ List.replicate k '0' := by
  induction k with
  | zero => simp
  | succ k ih =>
    have hpos : 0 < d * 10 ^ k := Nat.mul_pos hd (Nat.pow_pos (by decide))
    have happend := Nat.toDigits_append_toDigits (b := 10) (d := 0) (by decide) hpos (by decide)
    rw [List.replicate_succ', ← List.append_assoc, ← ih, Nat.pow_succ]
    rw [Nat.add_zero] at happend
    rw [show d * (10 ^ k * 10) = 10 * (d * 10 ^ k) by ring, ← happend]
    rfl

theorem text_zeros {d k : Nat} (h : (Nat.toDigits 10 d).length + k ≤ 16) :
    (⟨d, k⟩ : Decimal).text Json.pointRange =
      Nat.toDigits 10 d ++ List.replicate k '0' ++ ['.', '0'] := by
  have hlength := Nat.length_toDigits_pos (b := 10) (n := d)
  have hrange : Json.pointRange.first ≤ ((Nat.toDigits 10 d).length : Int) + (k : Nat) ∧
      ((Nat.toDigits 10 d).length : Int) + (k : Nat) ≤ Json.pointRange.last := by
    simp only [Json.pointRange]
    omega
  have hpoint : (((Nat.toDigits 10 d).length : Int) + (k : Nat)).toNat =
      (Nat.toDigits 10 d).length + k := by omega
  rw [Decimal.text]
  dsimp only
  rw [if_pos hrange, Decimal.withPoint, if_neg (by omega), hpoint, if_pos (Nat.le_add_right _ _),
    Nat.add_sub_cancel_left]

/-- An integer below `2 ^ 53` is written with its digits, with a point and a zero behind them. -/
theorem text_integer (negative : Bool) {n : Nat} (h : n < 2 ^ 53) :
    (integer negative n).text Json.pointRange =
      (if negative then ['-'] else []) ++ (Nat.toDigits 10 n ++ ['.', '0']) := by
  rcases Nat.eq_zero_or_pos n with rfl | hn
  · cases negative <;> rfl
  · obtain ⟨k, hdvd, hshortest⟩ := exists_shortest negative hn h
    have hsign : (integer negative n).negative = negative := rfl
    have hpos : 0 < n / 10 ^ k := Nat.div_pos (Nat.le_of_dvd hn hdvd) (Nat.pow_pos (by decide))
    have hdigits : Nat.toDigits 10 n = Nat.toDigits 10 (n / 10 ^ k) ++ List.replicate k '0' := by
      rw [← toDigits_mul_pow hpos, Nat.div_mul_cancel hdvd]
    have hlength : (Nat.toDigits 10 n).length ≤ 16 :=
      (Nat.length_toDigits_le_iff (by decide) (by decide)).2 (Nat.lt_trans h (by decide))
    rw [hdigits, List.length_append, List.length_replicate] at hlength
    rw [text, hsign, hshortest, text_zeros hlength, hdigits]

end Binary64
end Interaction

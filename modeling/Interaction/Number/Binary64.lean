/-! # Finite binary64 numbers

A number is a sign, a significand below `2 ^ 53` and an exponent of two. Every result is the exact
value rounded to the nearest number, and to the even significand of two equally near ones. -/

namespace Interaction

/-- The number `± significand * 2 ^ exponent`. Zero has a sign. -/
structure Binary64 where
  negative : Bool
  significand : Nat
  exponent : Int
deriving DecidableEq, Repr

namespace Binary64

/-- The exponent of the smallest numbers, those whose significand may be short. -/
def minExponent : Int := -1074

def maxExponent : Int := 971

/-- A number in its only form: the significand has 53 bits or the exponent is the least. -/
def Canonical (x : Binary64) : Prop :=
  x.significand < 1 <<< 53 ∧ minExponent ≤ x.exponent ∧ x.exponent ≤ maxExponent ∧
    (1 <<< 52 ≤ x.significand ∨ x.exponent = minExponent)

def zero (negative : Bool) : Binary64 := ⟨negative, 0, minExponent⟩

/-- The largest number. -/
def largest : Binary64 := ⟨false, (1 <<< 53) - 1, maxExponent⟩

/-- The integer nearest to `num / den`, the even one of two. -/
def nearest (num den : Nat) : Nat :=
  let q := num / den
  let r := num % den
  if 2 * r < den then q
  else if den < 2 * r then q + 1
  else if q % 2 = 0 then q else q + 1

theorem nearest_mul (n : Nat) {den : Nat} (h : 0 < den) : nearest (n * den) den = n := by
  simp [nearest, Nat.mul_div_cancel n h, h]

/-- The fraction that `num / den` is in units of `2 ^ e`. -/
def inUnits (num den : Nat) (e : Int) : Nat × Nat :=
  if 0 ≤ e then (num, den <<< e.toNat) else (num <<< (-e).toNat, den)

/-- The exponent with which `num / den` fills 53 bits, as far as exponents go. -/
def exponentOf (num den : Nat) : Int :=
  let e := max minExponent ((num.log2 : Int) - den.log2 - 53)
  let u := inUnits num den e
  if u.1 / u.2 < 1 <<< 53 then e else e + 1

/-- The number nearest to `± num / den`, unless that is beyond the largest. -/
def ofRatio? (negative : Bool) (num den : Nat) : Option Binary64 :=
  if num = 0 then some (zero negative)
  else
    let e := exponentOf num den
    let u := inUnits num den e
    let m := nearest u.1 u.2
    let x := if m < 1 <<< 53 then ⟨negative, m, e⟩ else ⟨negative, 1 <<< 52, e + 1⟩
    if x.exponent ≤ maxExponent then some x else none

/-- The number nearest to `n`. -/
def ofNat (n : Nat) : Binary64 := (ofRatio? false n 1).getD largest

/-- The number nearest to `± m * 2 ^ e`, divided by `d`. -/
def ofScaled? (negative : Bool) (m : Nat) (e : Int) (d : Nat) : Option Binary64 :=
  if 0 ≤ e then ofRatio? negative (m <<< e.toNat) d
  else ofRatio? negative m (d <<< (-e).toNat)

/-- The product of two numbers, with the sign of the first. -/
def mul? (x y : Binary64) : Option Binary64 :=
  ofScaled? x.negative (x.significand * y.significand) (x.exponent + y.exponent) 1

/-- The quotient of two numbers, with the sign of the first. -/
def div? (x y : Binary64) : Option Binary64 :=
  ofScaled? x.negative x.significand (x.exponent - y.exponent) y.significand

end Binary64
end Interaction

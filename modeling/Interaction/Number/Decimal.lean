import Interaction.Number.Binary64

/-! # Decimals of binary64 numbers

`Binary64.shortest` finds the fewest digits that only this number is nearest to, and of those the
decimal that is nearest to the number. `Decimal.text` writes them down, by position or with an
exponent. -/

namespace Interaction

/-- The decimal `digits * 10 ^ exponent`. -/
structure Decimal where
  digits : Nat
  exponent : Int
deriving DecidableEq, Repr

namespace Binary64

/-- The decimals that round to a number: from `low` to `high`, in units of `2 ^ exponent`, with the
number itself at `value`. The ends belong to it if its significand is even. -/
structure Interval where
  low : Nat
  value : Nat
  high : Nat
  exponent : Int
  closed : Bool

/-- Units are quarters of the last bit: below a power of two, numbers lie twice as close. -/
def interval (x : Binary64) : Interval where
  low := 4 * x.significand - if x.significand = 1 <<< 52 && x.exponent ≠ minExponent then 1 else 2
  value := 4 * x.significand
  high := 4 * x.significand + 2
  exponent := x.exponent - 2
  closed := x.significand % 2 = 0

namespace Interval

/-- Multiplying by `scale k` on both sides turns `a` units and `d * 10 ^ k` into integers. -/
def scale (i : Interval) (k : Int) : Nat × Nat :=
  let two := 1 <<< i.exponent.natAbs
  let ten := Nat.pow 10 k.natAbs
  ((if 0 ≤ i.exponent then two else 1) * (if 0 ≤ k then 1 else ten),
    (if 0 ≤ i.exponent then 1 else two) * (if 0 ≤ k then ten else 1))

/-- `d * 10 ^ k` lies in the interval. -/
def holds (i : Interval) (d : Nat) (k : Int) : Bool :=
  let s := i.scale k
  if i.closed then i.low * s.1 ≤ d * s.2 && d * s.2 ≤ i.high * s.1
  else i.low * s.1 < d * s.2 && d * s.2 < i.high * s.1

/-- The multiple of `10 ^ k` in the interval that is nearest to its value, if one of the two
around the value is in it. -/
def pick? (i : Interval) (k : Int) : Option Nat :=
  let s := i.scale k
  let v := i.value * s.1
  let d := v / s.2
  match i.holds d k, i.holds (d + 1) k with
  | true, true =>
    let r := 2 * (v % s.2)
    if r < s.2 then some d
    else if s.2 < r then some (d + 1)
    else if d % 2 = 0 then some d else some (d + 1)
  | true, false => some d
  | false, true => some (d + 1)
  | false, false => none

/-- The first hit on the grids of `10 ^ k`, `10 ^ (k - 1)` and so on. -/
def search (i : Interval) : Nat → Int → Option Decimal
  | 0, _ => none
  | n + 1, k =>
    match i.pick? k with
    | some d => some ⟨d, k⟩
    | none => search i n (k - 1)

end Interval

/-- A power of ten that is beyond the number. -/
def decimalTop (x : Binary64) : Int :=
  ((x.significand.log2 : Int) + x.exponent + 1) * 30103 / 100000 + 1

/-- The shortest decimal that reads back as the number. From the top, seventeen digits are reached
within twenty steps. -/
def shortest (x : Binary64) : Decimal :=
  if x.significand = 0 then ⟨0, 0⟩
  else (x.interval.search 20 x.decimalTop).getD ⟨0, 0⟩

end Binary64

/-- Where positional writing ends: the point may stand behind up to `last` digits, and in front of
up to `-first` zeros. -/
structure PointRange where
  first : Int
  last : Int

namespace Decimal

/-- The digits with a point behind the first `n`. Empty sides get a zero. -/
def withPoint (ds : List Char) (n : Int) : List Char :=
  if n ≤ 0 then '0' :: '.' :: (List.replicate (-n).toNat '0' ++ ds)
  else if ds.length ≤ n.toNat then ds ++ List.replicate (n.toNat - ds.length) '0' ++ ['.', '0']
  else ds.take n.toNat ++ '.' :: ds.drop n.toNat

/-- An exponent of ten; its sign is always written. -/
def exponentText (e : Int) : List Char :=
  'e' :: (if e < 0 then '-' else '+') :: Nat.toDigits 10 e.natAbs

/-- One digit, the other digits behind a point, and an exponent. -/
def scientific (ds : List Char) (e : Int) : List Char :=
  match ds with
  | d :: d' :: ds => d :: '.' :: d' :: ds ++ exponentText e
  | ds => ds ++ exponentText e

/-- The decimal by position if its point is in `range`, else with an exponent. -/
def text (range : PointRange) (d : Decimal) : List Char :=
  let ds := Nat.toDigits 10 d.digits
  let point := ds.length + d.exponent
  if range.first ≤ point ∧ point ≤ range.last then withPoint ds point
  else scientific ds (point - 1)

end Decimal

/-- The number in decimal, with its sign. -/
def Binary64.text (range : PointRange) (x : Binary64) : List Char :=
  (if x.negative then ['-'] else []) ++ x.shortest.text range

end Interaction

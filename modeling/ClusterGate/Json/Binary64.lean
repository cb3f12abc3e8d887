/-!
# Double-precision numbers, exactly

A finite double is `± mantissa · 2 ^ exponent`, kept in the one form in
which either the mantissa has 53 bits or the exponent is the least one.
All arithmetic is on naturals: an operation forms the exact quotient and
rounds it once, to nearest with ties to even (`ofRatio`), so nothing here
depends on the machine's floating point.

`shortestDigits` finds the decimal with the fewest digits that reads back
as the same number, the nearest one of those.
-/

namespace ClusterGate

/-- A finite double: `± mantissa · 2 ^ exponent`. -/
structure Binary64 where
  negative : Bool
  mantissa : Nat
  exponent : Int
  deriving DecidableEq, Repr

namespace Binary64

/-! ## Rounding -/

/-- Exponent of the smallest positive double. -/
def leastExponent : Int := -1074

/-- Exponent of the largest finite double. -/
def greatestExponent : Int := 971

/-- The quotient of two naturals rounded to a natural, ties to even. -/
def roundQuotient (num den : Nat) : Nat :=
  let q := num / den
  let r := num % den
  if 2 * r < den then q
  else if den < 2 * r then q + 1
  else if q % 2 = 0 then q else q + 1

/-- The quotient `num / (den · 2 ^ e)` as a pair of naturals. -/
def overPower (num den : Nat) (e : Int) : Nat × Nat :=
  if e < 0 then (num * Nat.pow 2 e.natAbs, den)
  else (num, den * Nat.pow 2 e.natAbs)

/-- The exponent at which the quotient has 53 bits before the point, or the
least exponent if that is larger. -/
def scaleOf (num den : Nat) : Int :=
  let e : Int := Int.ofNat (Nat.log2 num) - Int.ofNat (Nat.log2 den) - 52
  let s := overPower num den e
  let e := if s.1 / s.2 < Nat.pow 2 52 then e - 1 else e
  if e < leastExponent then leastExponent else e

/-- The double nearest to `± num / den`; none when that is beyond the
largest finite double. -/
def ofRatio (negative : Bool) (num den : Nat) : Option Binary64 :=
  if num = 0 then some ⟨negative, 0, leastExponent⟩
  else
    let e := scaleOf num den
    let s := overPower num den e
    let m := roundQuotient s.1 s.2
    let r : Binary64 :=
      if m = Nat.pow 2 53 then ⟨negative, Nat.pow 2 52, e + 1⟩
      else ⟨negative, m, e⟩
    if r.exponent > greatestExponent then none else some r

/-- Magnitude as a quotient of naturals. -/
def ratio (x : Binary64) : Nat × Nat :=
  if x.exponent < 0 then (x.mantissa, Nat.pow 2 x.exponent.natAbs)
  else (x.mantissa * Nat.pow 2 x.exponent.natAbs, 1)

/-- The rounded product; none on overflow. -/
def mul (x y : Binary64) : Option Binary64 :=
  let a := x.ratio
  let b := y.ratio
  ofRatio (x.negative != y.negative) (a.1 * b.1) (a.2 * b.2)

/-- The rounded quotient; none on overflow. -/
def div (x y : Binary64) : Option Binary64 :=
  let a := x.ratio
  let b := y.ratio
  ofRatio (x.negative != y.negative) (a.1 * b.2) (a.2 * b.1)

/-! ## From decimal notation -/

/-- The double nearest to ten to the `n`. -/
def powerOfTen (n : Nat) : Option Binary64 := ofRatio false (Nat.pow 10 n) 1

/-- Divides by ten to the `n`, in steps of at most `10 ^ 308`. Three full
steps take every double to zero, so four are enough. -/
def divByPowerOfTen : Nat → Binary64 → Nat → Option Binary64
  | 0, x, _ => some x
  | steps + 1, x, n =>
    if x.mantissa = 0 then some x
    else if n ≤ 308 then (powerOfTen n).bind x.div
    else ((powerOfTen 308).bind x.div).bind fun y =>
      divByPowerOfTen steps y (n - 308)

/-- Reads `± significand · 10 ^ exponent`: the significand is rounded to a
double first and then scaled by a power of ten, which is rounded again.
None when the result is beyond the largest finite double. -/
def ofDecimal (negative : Bool) (significand : Nat) (exponent : Int) :
    Option Binary64 :=
  (ofRatio negative significand 1).bind fun x =>
    if exponent < 0 then divByPowerOfTen 4 x exponent.natAbs
    else if exponent.natAbs ≤ 308 then (powerOfTen exponent.natAbs).bind x.mul
    else if x.mantissa = 0 then some x
    else none

/-! ## To decimal notation -/

/-- `± digits · 10 ^ exponent`. -/
structure Decimal where
  digits : Nat
  exponent : Int
  deriving DecidableEq, Repr

/-- Whether `a.1 / a.2` is below `b.1 / b.2`. -/
def ratioLt (a b : Nat × Nat) : Bool := a.1 * b.2 < b.1 * a.2

def ratioLe (a b : Nat × Nat) : Bool := a.1 * b.2 ≤ b.1 * a.2

/-- `digits · 10 ^ exponent` as a quotient of naturals. -/
def Decimal.ratio (d : Decimal) : Nat × Nat :=
  if d.exponent < 0 then (d.digits, Nat.pow 10 d.exponent.natAbs)
  else (d.digits * Nat.pow 10 d.exponent.natAbs, 1)

/-- The reals that round to `x` lie between these two, which are given in
units of a quarter of the last bit. -/
def neighbourhood (x : Binary64) : (Nat × Nat) × (Nat × Nat) :=
  let below :=
    if x.mantissa = Nat.pow 2 52 ∧ x.exponent > leastExponent then 1 else 2
  (ratio ⟨false, 4 * x.mantissa - below, x.exponent - 2⟩,
    ratio ⟨false, 4 * x.mantissa + 2, x.exponent - 2⟩)

/-- Whether a decimal rounds to `x`; the ends of the interval do exactly
when the mantissa is even. -/
def roundsFrom (x : Binary64) (d : Decimal) : Bool :=
  let n := x.neighbourhood
  if x.mantissa % 2 = 0 then ratioLe n.1 d.ratio && ratioLe d.ratio n.2
  else ratioLt n.1 d.ratio && ratioLt d.ratio n.2

/-- The decimal exponent of the leading digit of a positive magnitude. -/
def leadingExponent (x : Binary64) : Int :=
  let r := x.ratio
  if r.2 ≤ r.1 then Int.ofNat ((Nat.toDigits 10 (r.1 / r.2)).length - 1)
  else
    Int.negOfNat
      (((List.range 330).find? fun j => r.2 ≤ r.1 * Nat.pow 10 j).getD 0)

/-- The neighbour of `x` with `n` digits that rounds to `x`, the nearer one
if both do. -/
def withDigits (x : Binary64) (n : Nat) : Option Decimal :=
  let e := x.leadingExponent + 1 - Int.ofNat n
  let r := x.ratio
  let s := if e < 0 then (r.1 * Nat.pow 10 e.natAbs, r.2)
    else (r.1, r.2 * Nat.pow 10 e.natAbs)
  let low : Decimal := ⟨s.1 / s.2, e⟩
  let high : Decimal := ⟨s.1 / s.2 + 1, e⟩
  let lowNearer :=
    2 * (s.1 % s.2) < s.2 || (2 * (s.1 % s.2) == s.2 && low.digits % 2 == 0)
  if lowNearer && x.roundsFrom low then some low
  else if x.roundsFrom high then some high
  else if x.roundsFrom low then some low
  else none

/-- The same decimal with up to `fuel` zeros at the end moved into the
exponent. -/
def Decimal.dropZeros : Nat → Decimal → Decimal
  | 0, d => d
  | fuel + 1, d =>
    if d.digits % 10 = 0 then dropZeros fuel ⟨d.digits / 10, d.exponent + 1⟩
    else d

/-- The shortest decimal that reads back as the magnitude of `x`. -/
def shortestDigits (x : Binary64) : Decimal :=
  if x.mantissa = 0 then ⟨0, 0⟩
  else
    (((List.range 17).findSome? fun n => x.withDigits (n + 1)).getD
      ⟨x.mantissa, 0⟩).dropZeros 17

end Binary64

end ClusterGate

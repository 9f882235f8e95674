import ApiModel.Number.Decimal

/-!
# Floating-point numbers of 64 bits

A finite number is kept as sign, significand and power of two, in the one form in which the
significand has 53 bits or the exponent is the least. `ofRatio?` rounds a quotient to the nearest
such number, a tie to the even significand. `shortest` finds the decimal with the fewest digits
that rounds back, and of those the nearest.
-/

namespace ApiModel

/-- `± significand · 2 ^ exponent`. -/
structure Binary64 where
  negative : Bool
  significand : Nat
  exponent : Int
deriving DecidableEq

namespace Binary64

/-- The exponent of the numbers next to zero. -/
def minExponent : Int := -1074

/-- The exponent of the largest numbers. -/
def maxExponent : Int := 971

/-- The least significand of a number that has all its bits. -/
def minNormal : Nat := Nat.pow 2 52

def zero (negative : Bool) : Binary64 := ⟨negative, 0, minExponent⟩

/-! ### Rounding -/

/-- `n · base ^ e`; a negative exponent counts as none, and is put on the other side of a quotient. -/
def scale (base n : Nat) (e : Int) : Nat := n * Nat.pow base e.toNat

/-- The nearest whole number to a quotient; a half goes to the even neighbour. -/
def roundDiv (num den : Nat) : Nat :=
  let q := num / den
  let r := num % den
  if 2 * r < den || (2 * r = den && q % 2 = 0) then q else q + 1

/-- The power of two at or below a positive quotient. -/
def leadingExponent (num den : Nat) : Int :=
  let guess : Int := (Nat.log2 num : Int) - Nat.log2 den
  if scale 2 den guess ≤ scale 2 num (-guess) then guess else guess - 1

/-- The nearest number to `num / den`, both positive; nothing if it is too large. -/
def ofRatio? (negative : Bool) (num den : Nat) : Option Binary64 :=
  let e := max (leadingExponent num den - 52) minExponent
  let m := roundDiv (scale 2 num (-e)) (scale 2 den e)
  let (m, e) := if m = 2 * minNormal then (minNormal, e + 1) else (m, e)
  if e > maxExponent then none else some ⟨negative, m, e⟩

/-- The nearest number to a decimal; nothing if it is too large. Magnitudes far outside the range
are settled by their number of digits alone. -/
def ofDecimal? (d : Decimal) : Option Binary64 :=
  let point : Int := (Nat.toDigits 10 d.coefficient).length + d.exponent
  if d.coefficient = 0 || point < -330 then some (zero d.negative)
  else if point > 310 then none
  else ofRatio? d.negative (scale 10 d.coefficient d.exponent) (scale 10 1 (-d.exponent))

/-- The nearest number to a whole number; zero for one that is out of range, which takes more than
a thousand bits. -/
def ofInt (n : Int) : Binary64 :=
  (ofDecimal? ⟨n < 0, n.natAbs, 0⟩).getD (zero false)

/-! ### Shortest digits -/

/-- Whether `10 ^ e` is at most the magnitude. -/
def atLeastPow (x : Binary64) (e : Int) : Bool :=
  scale 10 (scale 2 1 (-x.exponent)) e ≤ scale 10 (scale 2 x.significand x.exponent) (-e)

/-- The power of ten at or below the magnitude of a number other than zero. -/
def decimalExponent (x : Binary64) : Int :=
  let guess := (x.exponent + Nat.log2 x.significand) * 30103 / 100000
  if x.atLeastPow (guess + 1) then guess + 1
  else if x.atLeastPow guess then guess
  else guess - 1

/-- The multiple of `10 ^ k` that rounds to `x`, the nearer one if both neighbours of `x` do.

In quarters of the last place, the numbers that round to `x` reach two quarters up and two down,
but one down where the exponent changes; the ends belong to them if the significand is even. -/
def onGrid? (x : Binary64) (k : Int) : Option Nat :=
  let s := x.exponent - 2
  let a := scale 10 (scale 2 1 s) (-k)
  let b := scale 2 (scale 10 1 k) (-s)
  let value := 4 * x.significand * a
  let below := if x.significand = minNormal && minExponent < x.exponent then a else 2 * a
  let above := 2 * a
  let within (c : Nat) : Bool :=
    if x.significand % 2 = 0 then value ≤ c * b + below && c * b ≤ value + above
    else value < c * b + below && c * b < value + above
  let c := value / b
  let rest := value % b
  if within c && within (c + 1) then
    some (if 2 * rest < b || (2 * rest = b && c % 2 = 0) then c else c + 1)
  else if within c then some c
  else if within (c + 1) then some (c + 1)
  else none

/-- The number itself as a decimal. -/
def toDecimal (x : Binary64) : Decimal :=
  ⟨x.negative, scale 5 (scale 2 x.significand x.exponent) (-x.exponent), min x.exponent 0⟩

/-- The decimal with the fewest digits that rounds back; seventeen always do. -/
def shortest (x : Binary64) : Decimal :=
  if x.significand = 0 then ⟨x.negative, 0, 0⟩
  else
    let lead := x.decimalExponent
    let found := (List.range 17).findSome? fun (i : Nat) =>
      (x.onGrid? (lead - i)).map fun c => (⟨x.negative, c, lead - i⟩ : Decimal)
    (found.getD x.toDecimal).trim

end Binary64

end ApiModel

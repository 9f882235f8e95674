import ApiModel.Json.Basic

/-!
# Numbers in JSON text

A number without fraction and exponent that fits into 64 bits is whole. Any other is read in two
steps, each of which rounds to the nearest number: as many digits as fit into 64 bits make a
coefficient, which is then multiplied or divided by a power of ten. The last bit may therefore
differ from the number nearest to the text.
-/

namespace ApiModel

namespace Binary64

/-- The magnitude as a quotient. -/
def ratio (x : Binary64) : Nat × Nat := (scale 2 x.significand x.exponent, scale 2 1 (-x.exponent))

/-- The power of ten with an exponent of at most `maxPower`. -/
def ofPower (n : Nat) : Binary64 := (ofDecimal? ⟨false, 1, n⟩).getD (zero false)

/-- The largest exponent of a power of ten that is a number. -/
def maxPower : Nat := 308

/-- The product with a power of ten; nothing if it is too large. -/
def timesPower? (x : Binary64) (n : Nat) : Option Binary64 :=
  let (num, den) := x.ratio
  let (num', den') := (ofPower n).ratio
  if x.significand = 0 then some x
  else if maxPower < n then none
  else ofRatio? x.negative (num * num') (den * den')

/-- The quotient by a power of ten, in several steps if the power is too large. -/
def overPower (x : Binary64) (n : Nat) : Binary64 :=
  let quotient (m : Nat) : Binary64 :=
    let (num, den) := x.ratio
    let (num', den') := (ofPower m).ratio
    (ofRatio? x.negative (num * den') (den * num')).getD x
  if x.significand = 0 then x
  else if n ≤ maxPower then quotient n
  else overPower (quotient maxPower) (n - maxPower)
termination_by n
decreasing_by simp only [maxPower] at *; omega

end Binary64

namespace Number

/-- Adds digits to a coefficient while it fits into 64 bits; gives the digits that are left. -/
def addDigits (coefficient : Nat) : List Char → Nat × List Char
  | [] => (coefficient, [])
  | c :: cs =>
    let more := 10 * coefficient + Decimal.digitValue c
    if more < Nat.pow 2 64 then addDigits more cs else (coefficient, c :: cs)

/-- A number with a fraction or an exponent. -/
def float? (negative : Bool) (whole fraction : List Char) (exponent : Int) : Option Binary64 :=
  let (coefficient, left) := addDigits 0 whole
  let (coefficient, ignored) := addDigits coefficient fraction
  let point : Int := left.length - (fraction.length - ignored.length : Nat) + exponent
  let x := { Binary64.ofInt coefficient with negative }
  if 0 ≤ point then x.timesPower? point.toNat else some (x.overPower (-point).toNat)

/-- The number that a text spells. -/
def parse? (text : List Char) : Option Number := do
  let (negative, cs) := Decimal.spanSign text
  let (whole, rest) := Decimal.spanDigits cs
  let (fraction, rest) :=
    match rest with
    | '.' :: rest => Decimal.spanDigits rest
    | rest => ([], rest)
  let exponent ← Decimal.parseExponent? rest
  let n : Int := Decimal.ofDigits whole
  let isWhole := whole.length = cs.length
  if isWhole && !negative && n < Nat.pow 2 64 then return .int n
  else if isWhole && negative && n ≠ 0 && n ≤ Nat.pow 2 63 then return .int (-n)
  else return .float (← float? negative whole fraction exponent)

end Number

end ApiModel

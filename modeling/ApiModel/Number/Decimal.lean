/-!
# Decimal numbers

A decimal is a sign, a coefficient and a power of ten. `Decimal.parse?` reads the usual notation,
`Decimal.render` writes a decimal positionally near one and with an exponent elsewhere; where the
change happens and how the exponent is signed is a `Decimal.Format`.
-/

namespace ApiModel

/-- `± coefficient · 10 ^ exponent`. -/
structure Decimal where
  negative : Bool
  coefficient : Nat
  exponent : Int
deriving DecidableEq

namespace Decimal

def digitValue (c : Char) : Nat := c.toNat - '0'.toNat

/-- The number that a run of decimal digits names; other characters must not occur. -/
def ofDigits (digits : List Char) : Nat :=
  digits.foldl (fun n c => 10 * n + digitValue c) 0

/-- Splits a run of digits off the front. -/
def spanDigits (cs : List Char) : List Char × List Char :=
  (cs.takeWhile Char.isDigit, cs.dropWhile Char.isDigit)

/-- Takes a leading sign off; `true` says that it was a minus. -/
def spanSign : List Char → Bool × List Char
  | '-' :: cs => (true, cs)
  | '+' :: cs => (false, cs)
  | cs => (false, cs)

/-- What follows the coefficient: nothing, or `e` and a signed number that ends the text. -/
def parseExponent? (cs : List Char) : Option Int :=
  match cs with
  | [] => some 0
  | e :: cs =>
    if e = 'e' || e = 'E' then
      let (minus, cs) := spanSign cs
      let (digits, rest) := spanDigits cs
      if digits.isEmpty || !rest.isEmpty then none
      else
        let n : Int := ofDigits digits
        some (if minus then -n else n)
    else none

/-- Sign, digits with at most one point among or around them, exponent. -/
def parse? (text : List Char) : Option Decimal :=
  let (negative, cs) := spanSign text
  let (whole, cs) := spanDigits cs
  let (fraction, cs) :=
    match cs with
    | '.' :: cs => spanDigits cs
    | cs => ([], cs)
  if whole.isEmpty && fraction.isEmpty then none
  else (parseExponent? cs).map fun e =>
    ⟨negative, ofDigits (whole ++ fraction), e - fraction.length⟩

/-! ### Writing -/

/-- Takes the zeros off the end of the coefficient. -/
def trim (d : Decimal) : Decimal :=
  if 0 < d.coefficient ∧ d.coefficient % 10 = 0 then
    trim ⟨d.negative, d.coefficient / 10, d.exponent + 1⟩
  else d
termination_by d.coefficient
decreasing_by omega

/-- How a decimal is laid out: numbers of magnitude at least `10 ^ low` and below `10 ^ high` are
positional, the others have an exponent, whose plus sign is written or not. -/
structure Format where
  low : Int
  high : Int
  plusSign : Bool

/-- The sign of an exponent; a plus only if the format writes it. -/
def exponentText (f : Format) (e : Int) : String :=
  if e < 0 then s!"e-{e.natAbs}"
  else if f.plusSign then s!"e+{e.natAbs}"
  else s!"e{e.natAbs}"

/-- Positional text has a digit on both sides of the point; text with an exponent has one digit
before it, and a point only if further digits follow. -/
def render (f : Format) (d : Decimal) : String :=
  let digits := Nat.toDigits 10 d.coefficient
  let count : Int := digits.length
  let point := count + d.exponent
  let sign := if d.negative then "-" else ""
  let zeros (n : Int) := List.replicate n.toNat '0'
  let body :=
    if d.coefficient = 0 then "0.0"
    else if f.low < point && point ≤ f.high then
      if count ≤ point then String.ofList (digits ++ zeros (point - count) ++ ['.', '0'])
      else if 0 < point then
        String.ofList (digits.take point.toNat ++ ['.'] ++ digits.drop point.toNat)
      else String.ofList (['0', '.'] ++ zeros (-point) ++ digits)
    else
      match digits with
      | [c] => String.ofList [c] ++ exponentText f (point - 1)
      | c :: cs => String.ofList (c :: '.' :: cs) ++ exponentText f (point - 1)
      | [] => ""
  sign ++ body

end Decimal

end ApiModel

/-!
# Labels of domains in ASCII

A label with other characters is spelled as its ASCII characters, a hyphen, and a number for each
other character, in the order of their code points: how many places and code points it is away from
the one before. The numbers have digits of base 36, the lowest first, and a threshold for each place
says which digits end a number; the thresholds follow the size of the numbers before (`adapt`).
-/

namespace ApiModel.Punycode

def digitValue? (c : Char) : Option Nat :=
  if c.isLower then some (c.toNat - 'a'.toNat)
  else if c.isUpper then some (c.toNat - 'A'.toNat)
  else if c.isDigit then some (c.toNat - '0'.toNat + 26)
  else none

def digit (n : Nat) : Char :=
  if n < 26 then Char.ofNat ('a'.toNat + n) else Char.ofNat ('0'.toNat + (n - 26))

/-- The digits below the threshold of a place end a number; `place` is 36 for the first digit. -/
def threshold (place bias : Nat) : Nat := max 1 (min 26 (place - bias))

theorem one_le_threshold (place bias : Nat) : 1 ≤ threshold place bias := Nat.le_max_left ..

/-- The bias before the first number. -/
def firstBias : Nat := 72

/-- The bias for numbers of a size, that many places of base 35 beyond the usual one. -/
def biasOf (size bias : Nat) : Nat :=
  if 455 < size then biasOf (size / 35) (bias + 36) else bias + 36 * size / (size + 38)
termination_by size
decreasing_by omega

/-- The bias after a number; `count` characters are then spelled. -/
def adapt (number count : Nat) (first : Bool) : Nat :=
  let size := if first then number / 700 else number / 2
  biasOf (size + size / count) 0

/-! ### Writing -/

def writeNumber (bias place number : Nat) : List Char :=
  let t := threshold place bias
  if number < t then [digit number]
  else
    digit (t + (number - t) % (36 - t)) :: writeNumber bias (place + 36) ((number - t) / (36 - t))
termination_by number
decreasing_by
  have h1 := one_le_threshold place bias
  have h2 := Nat.div_le_self (number - threshold place bias) (36 - threshold place bias)
  omega

/-- What is written so far. -/
structure Writer where
  /-- The digits, last first. -/
  digits : List Char := []
  /-- The places passed since the last character that was written. -/
  number : Nat := 0
  bias : Nat := firstBias
  /-- How many characters are written. -/
  count : Nat

/-- Passes a character of the label while those with the code point `target` are written. -/
def Writer.pass (basicCount target : Nat) (w : Writer) (c : Char) : Writer :=
  if c.toNat < target then { w with number := w.number + 1 }
  else if c.toNat = target then
    { digits := (writeNumber w.bias 36 w.number).reverse ++ w.digits
      number := 0
      bias := adapt w.number (w.count + 1) (w.count = basicCount)
      count := w.count + 1 }
  else w

/-- Writes the characters with the code points of a list, which ascends; those below `next` are
written. -/
def writeFrom (label : List Char) (basicCount : Nat) (w : Writer) (next : Nat) : List Nat → Writer
  | [] => w
  | target :: targets =>
    let w := { w with number := w.number + (target - next) * (w.count + 1) }
    let w := label.foldl (Writer.pass basicCount target) w
    writeFrom label basicCount { w with number := w.number + 1 } (target + 1) targets

/-- Whether a character stands for itself. -/
def isBasic (c : Char) : Bool := c.toNat < 128

def encode (label : List Char) : List Char :=
  let basic := label.filter isBasic
  let others := (label.filter (!isBasic ·)).map Char.toNat
  let targets := (others.mergeSort).eraseReps
  let w := writeFrom label basic.length { count := basic.length } 128 targets
  basic ++ (if basic.isEmpty then [] else ['-']) ++ w.digits.reverse

/-! ### Reading -/

/-- The number that starts a text, which is added to `sum`, and the text after it. -/
def readNumber? (bias place weight sum : Nat) : List Char → Option (Nat × List Char)
  | [] => none
  | c :: cs =>
    match digitValue? c with
    | none => none
    | some d =>
      let t := threshold place bias
      if d < t then some (sum + d * weight, cs)
      else readNumber? bias (place + 36) (weight * (36 - t)) (sum + d * weight) cs

theorem length_lt_of_readNumber? {bias place weight sum : Nat} {cs : List Char}
    {r : Nat × List Char} (h : readNumber? bias place weight sum cs = some r) :
    r.2.length < cs.length := by
  induction cs generalizing place weight sum with
  | nil => simp [readNumber?] at h
  | cons c cs ih =>
    rw [readNumber?] at h
    split at h
    · simp at h
    · simp only at h
      split at h
      · simp only [Option.some.injEq] at h
        subst h
        exact Nat.lt_succ_self _
      · exact Nat.lt_succ_of_lt (ih h)

/-- Reads the other characters into a label; `code` is the code point of the latest one, and `place`
the place after it. -/
def readFrom? (label : List Char) (code place bias : Nat) (cs : List Char) :
    Option (List Char) :=
  if cs.isEmpty then some label
  else
    match _h : readNumber? bias 36 1 place cs with
    | none => none
    | some (sum, rest) =>
      let count := label.length + 1
      let next := code + sum / count
      let here := sum % count
      if next.isValidChar then
        readFrom? (label.take here ++ Char.ofNat next :: label.drop here) next (here + 1)
          (adapt (sum - place) count (place = 0)) rest
      else none
termination_by cs.length
decreasing_by exact length_lt_of_readNumber? _h

/-- The label that ASCII text spells. -/
def decode? (text : List Char) : Option (List Char) :=
  let digits := (text.reverse.takeWhile (· ≠ '-')).reverse
  let basic := text.take (text.length - digits.length - 1)
  if basic.all isBasic then readFrom? basic 128 0 firstBias digits else none

end ApiModel.Punycode

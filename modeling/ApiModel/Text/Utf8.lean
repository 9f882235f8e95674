/-!
# UTF-8

Decoding that never fails: where the bytes are no character, the longest start of one, or else one
byte, becomes U+FFFD.
-/

namespace ApiModel.Utf8

def replacement : Char := '\uFFFD'

def isContinuation (b : UInt8) : Bool := 0x80 ≤ b && b ≤ 0xBF

/-- The second bytes that may follow a first byte, which leave out overlong forms, surrogates and
numbers beyond the last character. -/
def allowsSecond (first second : UInt8) : Bool :=
  if first = 0xE0 then 0xA0 ≤ second && second ≤ 0xBF
  else if first = 0xED then 0x80 ≤ second && second ≤ 0x9F
  else if first = 0xF0 then 0x90 ≤ second && second ≤ 0xBF
  else if first = 0xF4 then 0x80 ≤ second && second ≤ 0x8F
  else isContinuation second

/-- How many bytes follow a first byte; nothing for a byte that starts no character. -/
def following? (first : UInt8) : Option Nat :=
  if first < 0x80 then some 0
  else if 0xC2 ≤ first && first ≤ 0xDF then some 1
  else if 0xE0 ≤ first && first ≤ 0xEF then some 2
  else if 0xF0 ≤ first && first ≤ 0xF4 then some 3
  else none

/-- The bits that the first of `n + 1` bytes carries. -/
def leadBits (n : Nat) (first : UInt8) : Nat :=
  match n with
  | 0 => first.toNat
  | n => first.toNat % Nat.pow 2 (6 - n)

/-- Adds `n` continuation bytes to the bits read so far. -/
def continueChar (n : Nat) (bits : Nat) : List UInt8 → Char × List UInt8
  | rest =>
    match n, rest with
    | 0, rest => (Char.ofNat bits, rest)
    | n + 1, b :: rest =>
      if isContinuation b then continueChar n (64 * bits + b.toNat % 64) rest
      else (replacement, b :: rest)
    | _ + 1, [] => (replacement, [])

theorem length_continueChar_le (n bits : Nat) (bs : List UInt8) :
    (continueChar n bits bs).2.length ≤ bs.length := by
  induction n generalizing bits bs with
  | zero => simp [continueChar]
  | succ n ih =>
    cases bs with
    | nil => simp [continueChar]
    | cons b bs =>
      rw [continueChar]
      split
      · exact Nat.le_succ_of_le (ih _ _)
      · exact Nat.le_refl _

/-- The first character of `first :: bs`, or U+FFFD, and the bytes after it. -/
def firstChar (first : UInt8) (bs : List UInt8) : Char × List UInt8 :=
  match following? first with
  | none => (replacement, bs)
  | some 0 => (Char.ofNat first.toNat, bs)
  | some n =>
    match bs with
    | second :: _ =>
      if allowsSecond first second then continueChar n (leadBits n first) bs
      else (replacement, bs)
    | [] => (replacement, [])

theorem length_firstChar_le (first : UInt8) (bs : List UInt8) :
    (firstChar first bs).2.length ≤ bs.length := by
  unfold firstChar
  split
  · exact Nat.le_refl _
  · exact Nat.le_refl _
  · split
    · split
      · exact length_continueChar_le _ _ _
      · exact Nat.le_refl _
    · exact Nat.le_refl _

def decodeLossy : List UInt8 → List Char
  | [] => []
  | first :: bs => (firstChar first bs).1 :: decodeLossy (firstChar first bs).2
termination_by bs => bs.length
decreasing_by
  have := length_firstChar_le first bs
  simp only [List.length_cons]
  omega

theorem length_decodeLossy_le (bs : List UInt8) : (decodeLossy bs).length ≤ bs.length := by
  fun_induction decodeLossy bs with
  | case1 => exact Nat.le_refl _
  | case2 first bs ih =>
    rw [List.length_cons, List.length_cons]
    exact Nat.succ_le_succ (Nat.le_trans ih (length_firstChar_le first bs))

end ApiModel.Utf8

import ApiModel.Text.Unicode.Composition

/-!
# The composed form of text

Text that looks the same may be spelled with composed characters or with marks of their own. In the
composed form all characters are taken apart, marks are brought into the order of their classes, and
what can be composed is composed again, from the left.
-/

namespace ApiModel.Unicode

namespace Hangul

def firstLead : Nat := 0x1100
def firstVowel : Nat := 0x1161
/-- The number before the first consonant at the end of a syllable; it stands for none. -/
def noTail : Nat := 0x11A7
def firstSyllable : Nat := 0xAC00
def leadCount : Nat := 19
def vowelCount : Nat := 21
def tailCount : Nat := 28
def syllableCount : Nat := leadCount * vowelCount * tailCount

/-- Lead, vowel and maybe tail of a syllable. -/
def parts? (c : Char) : Option (List Char) :=
  let index := c.toNat - firstSyllable
  if c.toNat < firstSyllable || syllableCount ≤ index then none
  else
    let lead := Char.ofNat (firstLead + index / (vowelCount * tailCount))
    let vowel := Char.ofNat (firstVowel + index / tailCount % vowelCount)
    let tail := index % tailCount
    some (lead :: vowel :: if tail = 0 then [] else [Char.ofNat (noTail + tail)])

/-- A lead and a vowel, or a syllable without a tail and a tail. -/
def composite? (first second : Char) : Option Char :=
  let lead := first.toNat - firstLead
  let vowel := second.toNat - firstVowel
  let syllable := first.toNat - firstSyllable
  let tail := second.toNat - noTail
  if firstLead ≤ first.toNat && lead < leadCount && firstVowel ≤ second.toNat &&
      vowel < vowelCount then
    some (Char.ofNat (firstSyllable + (lead * vowelCount + vowel) * tailCount))
  else if firstSyllable ≤ first.toNat && syllable < syllableCount && syllable % tailCount = 0 &&
      noTail < second.toNat && tail < tailCount then
    some (Char.ofNat (first.toNat + tail))
  else none

end Hangul

/-! ### Taking apart -/

/-- How deep the first part of a character can have parts itself. -/
def partsDepth : Nat := 4

def takeApart (depth : Nat) (c : Char) : List Char :=
  match depth, parts? c with
  | depth + 1, some (first, second) => takeApart depth first ++ [second]
  | _, _ => (Hangul.parts? c).getD [c]

/-- A character with its combining class. -/
abbrev Classed := Nat × Char

/-- Puts a character behind text that is last first, but a mark before marks of higher classes. -/
def insertMark (x : Classed) : List Classed → List Classed
  | [] => [x]
  | y :: ys => if 0 < x.1 && x.1 < y.1 then y :: insertMark x ys else x :: y :: ys

/-- The characters of a text taken apart, with the marks in order. -/
def decompose (cs : List Char) : List Classed :=
  let parts := cs.flatMap (takeApart partsDepth)
  (parts.foldl (fun done c => insertMark (combiningClass c, c) done) []).reverse

/-! ### Composing -/

/-- Composes a starter with the characters after it; `marks` are those between them that stay, last
first. A mark of the same or a higher class, or another starter, keeps a character apart. -/
def composeFrom (starter : Char) (marks : List Classed) : List Classed → List Char
  | [] => starter :: (marks.map (·.2)).reverse
  | (k, c) :: rest =>
    let isFree := marks.head?.all fun mark => 0 < k && mark.1 < k
    let composed? := (Hangul.composite? starter c).or (composite? starter c)
    match isFree, composed? with
    | true, some composed => composeFrom composed marks rest
    | _, _ =>
      if k = 0 then starter :: (marks.map (·.2)).reverse ++ composeFrom c [] rest
      else composeFrom starter ((k, c) :: marks) rest

/-- The composed form; marks before the first starter stay as they are. -/
def normalForm (cs : List Char) : List Char :=
  let parts := decompose cs
  let leading := parts.takeWhile fun x => 0 < x.1
  leading.map (·.2) ++
    match parts.drop leading.length with
    | [] => []
    | (_, starter) :: rest => composeFrom starter [] rest

end ApiModel.Unicode

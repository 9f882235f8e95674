import ApiModel.Text.Unicode.Category
import ApiModel.Text.Unicode.Normal
import ApiModel.Url.Domain.Mapping
import ApiModel.Url.Domain.Punycode

/-!
# Names of network hosts

A domain is a sequence of labels with dots between them. Its ASCII form is the same for all
spellings of it: small letters of ASCII, and labels with other characters as `Punycode` after the
mark `xn--`. There is none if a label has characters that no domain may have, starts with a mark,
joins letters that do not join, or mixes directions of writing.
-/

namespace ApiModel.Domain

open ApiModel.Unicode

/-- What stands before the spelling of a label with characters beyond ASCII. -/
def punycodeMark : List Char := ['x', 'n', '-', '-']

/-- Joiners without width. -/
def nonJoiner : Char := '\u200C'

def joiner : Char := '\u200D'

/-- The combining class of the signs that take a vowel away. -/
def viramaClass : Nat := 9

/-- Whether the joiners of a label stand where they make a difference: after a virama, or for a
non-joiner between letters that would join. `before` is what comes before, last first. -/
def joinsWell (before : List Char) : List Char → Bool
  | [] => true
  | c :: cs =>
    let isFree := c ≠ nonJoiner && c ≠ joiner
    let afterVirama := before.head?.any fun b => combiningClass b = viramaClass
    let between := c = nonJoiner &&
      (before.find? (!isTransparent ·)).any joinsNext && (cs.find? (!isTransparent ·)).any joinsPrevious
    (isFree || afterVirama || between) && joinsWell (c :: before) cs

def isWellFormed (label : List Char) : Bool := !label.head?.any isMark && joinsWell [] label

/-! ### Direction -/

/-- Whether a label makes the rules of direction apply to its domain. -/
def needsDirection (label : List Char) : Bool :=
  label.any fun c => direction c = .rightToLeft || direction c = .arabicNumber

/-- Whether a label keeps to the direction of its first character. -/
def keepsDirection (label : List Char) : Bool :=
  match label.map direction with
  | [] => true
  | first :: rest =>
    let body := (rest.reverse.dropWhile (· = .nonspacingMark)).reverse
    let last := body.getLast?
    if first = .leftToRight then
      body.all (fun d => d ≠ .rightToLeft && d ≠ .arabicNumber) &&
        last.all fun d => d = .leftToRight || d = .europeanNumber
    else
      first = .rightToLeft && body.all (· ≠ .leftToRight) &&
        (last.all fun d => d ≠ .neutral) &&
        !(body.contains .europeanNumber && body.contains .arabicNumber)

/-! ### Domains -/

/-- The label that a label spells, if it has the mark. All its characters must stand for themselves. -/
def spelled? (label : List Char) : Option (List Char) :=
  if punycodeMark.isPrefixOf label then do
    let spelling := label.drop punycodeMark.length
    if spelling.getLast?.all (· = '-') then none
    else
      let text ← Punycode.decode? spelling
      if text.all isStable && normalForm text = text then some text else none
  else some label

/-- A label in ASCII. -/
def asciiLabel (label : List Char) : List Char :=
  if label.all Punycode.isBasic then label else punycodeMark ++ Punycode.encode label

/-- The characters that a domain stands for, in composed form. -/
def characters? (cs : List Char) : Option (List Char) := do
  let mapped ← cs.mapM mapped?
  return normalForm mapped.flatten

/-- The ASCII form of a domain. -/
def ascii? (cs : List Char) : Option (List Char) := do
  let labels := Split.parts '.' (cs.map Char.toLower)
  if cs.all Punycode.isBasic && !labels.any punycodeMark.isPrefixOf then some (cs.map Char.toLower)
  else
    let labels := Split.parts '.' (← characters? cs)
    let texts ← labels.mapM spelled?
    if !texts.all isWellFormed then none
    else if texts.any needsDirection && !texts.all keepsDirection then none
    else some (['.'].intercalate (labels.map asciiLabel))

end ApiModel.Domain

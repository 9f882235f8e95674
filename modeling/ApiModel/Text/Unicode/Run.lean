import ApiModel.Text.Percent
import ApiModel.Text.Split

/-!
# Tables of characters

A property of characters is a list of runs of code points. A table is written as text, with blanks or
line breaks between its runs and all numbers in hexadecimal:

* `A` and `A-B` are a run without values,
* `A-B:V` is a run with a value; in a mapping its first code point stands for `V`, the next one for the
  number after `V`, and so on,
* `A-B:V.W` is a run with several values, and `A-B:` has an empty list of them,
* `A~B` is a run of pairs, in which the first of two code points stands for the second.
-/

namespace ApiModel.Unicode

/-- Code points that follow one another. -/
structure CodeRun where
  first : Nat
  last : Nat
  paired : Bool
  values? : Option (List Nat)

namespace CodeRun

/-! ### Reading -/

/-- The words of a text. -/
def words (text : String) : List (List Char) :=
  let (word, before) := text.toList.foldr
    (fun c (word, after) =>
      if c = ' ' || c = '\n' then ([], if word.isEmpty then after else word :: after)
      else (c :: word, after))
    ([], [])
  if word.isEmpty then before else word :: before

def hex (digits : List Char) : Nat :=
  digits.foldl (fun n c => 16 * n + (Percent.hexValue? c).getD 0) 0

/-- The ends of a run, and whether it has pairs. -/
def ends (cs : List Char) : Nat × Nat × Bool :=
  match Split.once? '-' cs, Split.once? '~' cs with
  | some (first, last), _ => (hex first, hex last, false)
  | none, some (first, last) => (hex first, hex last, true)
  | none, none => (hex cs, hex cs, false)

def ofWord (word : List Char) : CodeRun :=
  let (range, values?) :=
    match Split.once? ':' word with
    | some (range, []) => (range, some [])
    | some (range, values) => (range, some ((Split.parts '.' values).map hex))
    | none => (word, none)
  let (first, last, paired) := ends range
  { first, last, paired, values? }

def ofText (text : String) : List CodeRun := (words text).map ofWord

/-! ### Looking up -/

/-- The run that has a code point. -/
def find? (runs : List CodeRun) (n : Nat) : Option CodeRun :=
  runs.find? fun r => r.first ≤ n && n ≤ r.last

def contains (runs : List CodeRun) (n : Nat) : Bool := (find? runs n).isSome

def values (r : CodeRun) : List Nat := r.values?.getD []

/-- What a code point of a run stands for in a mapping. -/
def targets (r : CodeRun) (n : Nat) : List Nat :=
  match r.values? with
  | none => [if r.paired && (n - r.first) % 2 = 0 then n + 1 else n]
  | some [value] => [value + (n - r.first)]
  | some values => values

end CodeRun

end ApiModel.Unicode

import ApiModel.Yaml.Cursor

/-!
# Folding lines

Text of several lines is read with what stands between its words kept back until the next word
comes: blanks within a line are kept, blanks around a line break are dropped, a single line break
becomes a blank, and of more than one the first is dropped.
-/

namespace ApiModel.Yaml

/-- Text read so far, and what was seen after its last word; all lists are last first. -/
structure Folding where
  text : List Char := []
  blanks : List Char := []
  /-- Whether a line ended after the last word. -/
  broken : Bool := false
  firstBreak : Option Char := none
  furtherBreaks : List Char := []

namespace Folding

def addBlank (f : Folding) (c : Char) : Folding :=
  if f.broken then f else { f with blanks := c :: f.blanks }

def addBreak (f : Folding) (c : Char) : Folding :=
  if f.broken then { f with furtherBreaks := c :: f.furtherBreaks }
  else { f with blanks := [], broken := true, firstBreak := some c }

/-- What is kept of that which was seen after the last word, last first. -/
def gap (f : Folding) : List Char :=
  if f.broken then
    match f.firstBreak with
    | some c =>
      if c = '\n' then (if f.furtherBreaks.isEmpty then [' '] else f.furtherBreaks)
      else f.furtherBreaks ++ [c]
    | none => f.furtherBreaks
  else f.blanks

/-- The text with what was kept back. -/
def join (f : Folding) : Folding := { text := f.gap ++ f.text }

def addChar (f : Folding) (c : Char) : Folding :=
  let f := f.join
  { f with text := c :: f.text }

/-- A line break that is escaped ends the line and leaves nothing. -/
def escapeBreak (f : Folding) : Folding := { f.join with broken := true }

def result (f : Folding) : String := String.ofList f.text.reverse

end Folding

end ApiModel.Yaml

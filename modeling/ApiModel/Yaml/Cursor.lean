/-!
# Reading YAML text

A cursor is the text that is left and the place where it starts. Line breaks of all systems are one
character (`normalize`), so that a line break is one step. Text with control characters is refused.
A place counts characters for the indentation, and bytes for the length of keys.
-/

namespace ApiModel.Yaml

/-- The characters that a text may have. -/
def isAllowed (c : Char) : Bool :=
  let n := c.toNat
  n = 9 || n = 10 || n = 13 || (32 ≤ n && n ≤ 0x7E) || n = 0x85 || (0xA0 ≤ n && n ≤ 0xFFFD) ||
    0x10000 ≤ n

def lineSeparator : Char := '\u2028'

def paragraphSeparator : Char := '\u2029'

def byteOrderMark : Char := '\uFEFF'

def isBreak (c : Char) : Bool := c = '\n' || c = lineSeparator || c = paragraphSeparator

def isBlank (c : Char) : Bool := c = ' ' || c = '\t'

/-- Letters, digits, underscores and hyphens make names. -/
def isNameChar (c : Char) : Bool := c.isAlphanum || c = '_' || c = '-'

/-- Line feeds for all line breaks but the two separators. -/
def normalize : List Char → List Char
  | '\r' :: '\n' :: cs => '\n' :: normalize cs
  | '\r' :: cs => '\n' :: normalize cs
  | '\u0085' :: cs => '\n' :: normalize cs
  | c :: cs => c :: normalize cs
  | [] => []

/-- A place in a text. -/
structure Mark where
  /-- The characters before it. -/
  index : Nat
  line : Nat
  /-- The characters before it in its line. -/
  column : Nat
  /-- The bytes of UTF-8 before it in its line. -/
  byteColumn : Nat

def Mark.start : Mark := ⟨0, 0, 0, 0⟩

/-- The place after a character. -/
def Mark.after (m : Mark) (c : Char) : Mark :=
  if isBreak c then ⟨m.index + 1, m.line + 1, 0, 0⟩
  else ⟨m.index + 1, m.line, m.column + 1, m.byteColumn + c.utf8Size⟩

structure Cursor where
  mark : Mark
  rest : List Char

namespace Cursor

def ofText (text : List Char) : Cursor := ⟨.start, normalize text⟩

def column (c : Cursor) : Nat := c.mark.column

def next (c : Cursor) : Cursor :=
  match c.rest with
  | [] => c
  | ch :: rest => ⟨c.mark.after ch, rest⟩

def skip : Nat → Cursor → Cursor
  | 0, c => c
  | n + 1, c => skip n c.next

/-- The first characters that satisfy a condition, and the cursor after them. -/
def span (p : Char → Bool) (c : Cursor) : List Char × Cursor :=
  let taken := c.rest.takeWhile p
  (taken, c.skip taken.length)

/-- The cursor after blanks. -/
def skipBlanks (c : Cursor) : Cursor := (c.span isBlank).2

end Cursor

/-- Whether a text is at its end or starts with a character of a class. -/
def endsOr (p : Char → Bool) : List Char → Bool
  | [] => true
  | c :: _ => p c

/-- Whether a blank, a line break or the end comes next. -/
def atGap (cs : List Char) : Bool := endsOr (fun c => isBlank c || isBreak c) cs

/-- Whether a line break or the end comes next. -/
def atLineEnd (cs : List Char) : Bool := endsOr isBreak cs

/-- Whether the marker of the start of a document, or of its end, comes next. -/
def atMarker (marker : Char) : List Char → Bool
  | a :: b :: c :: rest => a = marker && b = marker && c = marker && atGap rest
  | _ => false

/-- Whether either marker comes next at the start of a line. -/
def atDocumentMarker (m : Mark) (cs : List Char) : Bool :=
  m.column = 0 && (atMarker '-' cs || atMarker '.' cs)

end ApiModel.Yaml

import ApiModel.Text.Percent
import ApiModel.Yaml.Folding

/-!
# Scalars in YAML text

Plain scalars end at an indicator, at a comment or where the indentation says so. Quoted scalars end
at their quote, and double quotes allow escapes. Literal and folded block scalars take the lines that
are indented deep enough; the header says how the end of the last line is treated.
-/

namespace ApiModel.Yaml

def isFlowIndicator (c : Char) : Bool := c = ',' || c = '[' || c = ']' || c = '\x7b' || c = '\x7d'

/-- Whether a plain scalar stops at the character before `rest`; in a flow collection a colon before
an indicator is an error (`none`). -/
def stopsPlain? (flow : Bool) (c : Char) (rest : List Char) : Option Bool :=
  let colon := c = ':'
  if flow && colon && rest.head?.any fun d => d = '?' || isFlowIndicator d then none
  else some ((colon && atGap rest) || (flow && isFlowIndicator c))

/-- Reads a plain scalar; `gap` says that blanks or the start come just before. A line that is
indented less than `indent` does not belong to it. -/
def plainFrom (flow : Bool) (indent : Nat) (gap : Bool) (f : Folding) (m : Mark) :
    List Char → Option (Folding × Cursor)
  | [] => some (f, ⟨m, []⟩)
  | c :: cs =>
    if isBlank c then
      if f.broken && m.column < indent && c = '\t' then none
      else plainFrom flow indent true (f.addBlank c) (m.after c) cs
    else if isBreak c then plainFrom flow indent true (f.addBreak c) (m.after c) cs
    else if gap && ((f.broken && !flow && m.column < indent) || atDocumentMarker m (c :: cs) ||
        c = '#') then some (f, ⟨m, c :: cs⟩)
    else
      match stopsPlain? flow c cs with
      | none => none
      | some true => some (f, ⟨m, c :: cs⟩)
      | some false => plainFrom flow indent false (f.addChar c) (m.after c) cs

/-! ### Quoted -/

/-- The character that one letter after a backslash stands for. -/
def escape? : Char → Option Char
  | '0' => some '\x00'
  | 'a' => some '\x07'
  | 'b' => some '\x08'
  | 't' | '\t' => some '\t'
  | 'n' => some '\n'
  | 'v' => some '\x0b'
  | 'f' => some '\x0c'
  | 'r' => some '\r'
  | 'e' => some '\x1b'
  | ' ' => some ' '
  | '"' => some '"'
  | '/' => some '/'
  | '\\' => some '\\'
  | 'N' => some '\u0085'
  | '_' => some '\u00a0'
  | 'L' => some lineSeparator
  | 'P' => some paragraphSeparator
  | _ => none

/-- The character of a hexadecimal number. -/
def charOfHex? (digits : List Char) : Option Char := do
  let ds ← digits.mapM Percent.hexValue?
  let n := ds.foldl (fun n d => 16 * n + d) 0
  if n.isValidChar then some (Char.ofNat n) else none

/-- The place after several ASCII characters of one line. -/
def Mark.afterMany (m : Mark) (n : Nat) : Mark :=
  ⟨m.index + n, m.line, m.column + n, m.byteColumn + n⟩

def singleQuotedFrom (f : Folding) (m : Mark) : List Char → Option (String × Cursor)
  | [] => none
  | '\'' :: '\'' :: cs => singleQuotedFrom (f.addChar '\'') (m.afterMany 2) cs
  | '\'' :: cs => some (f.join.result, ⟨m.after '\'', cs⟩)
  | c :: cs =>
    if isBlank c then singleQuotedFrom (f.addBlank c) (m.after c) cs
    else if isBreak c then singleQuotedFrom (f.addBreak c) (m.after c) cs
    else if atDocumentMarker m (c :: cs) then none
    else singleQuotedFrom (f.addChar c) (m.after c) cs

def doubleQuotedFrom (f : Folding) (m : Mark) : List Char → Option (String × Cursor)
  | [] => none
  | '"' :: cs => some (f.join.result, ⟨m.after '"', cs⟩)
  | '\\' :: 'x' :: a :: b :: cs =>
    match charOfHex? [a, b] with
    | some c => doubleQuotedFrom (f.addChar c) (m.afterMany 4) cs
    | none => none
  | '\\' :: 'u' :: a :: b :: c :: d :: cs =>
    match charOfHex? [a, b, c, d] with
    | some c => doubleQuotedFrom (f.addChar c) (m.afterMany 6) cs
    | none => none
  | '\\' :: 'U' :: a :: b :: c :: d :: e :: g :: h :: i :: cs =>
    match charOfHex? [a, b, c, d, e, g, h, i] with
    | some c => doubleQuotedFrom (f.addChar c) (m.afterMany 10) cs
    | none => none
  | '\\' :: e :: cs =>
    if isBreak e then doubleQuotedFrom f.escapeBreak (m.after e) cs
    else
      match escape? e with
      | some c => doubleQuotedFrom (f.addChar c) (m.afterMany 2) cs
      | none => none
  | c :: cs =>
    if isBlank c then doubleQuotedFrom (f.addBlank c) (m.after c) cs
    else if isBreak c then doubleQuotedFrom (f.addBreak c) (m.after c) cs
    else if atDocumentMarker m (c :: cs) then none
    else doubleQuotedFrom (f.addChar c) (m.after c) cs

/-! ### Blocks -/

/-- What becomes of the line breaks at the end of a block. -/
inductive Chomping
  | strip
  | clip
  | keep
deriving DecidableEq

/-- Chomping and the indentation that the header of a block gives, in either order. -/
def blockHeader? (cs : List Char) : Option (Chomping × Option Nat × Nat) :=
  let chomping? : Char → Option Chomping := fun c =>
    if c = '+' then some .keep else if c = '-' then some .strip else none
  let digit? : Char → Option (Option Nat) := fun c =>
    if c = '0' then some none
    else if c.isDigit then some (some (c.toNat - '0'.toNat)) else none
  match cs with
  | [] => some (.clip, none, 0)
  | c :: rest =>
    match chomping? c, digit? c with
    | some ch, _ =>
      match rest.head?.bind digit? with
      | none => some (ch, none, 1)
      | some none => none
      | some n => some (ch, n, 2)
    | none, some none => none
    | none, some n =>
      match rest.head?.bind chomping? with
      | none => some (.clip, n, 1)
      | some ch => some (ch, n, 2)
    | none, none => some (.clip, none, 0)

/-- Skips empty lines and indentation. Gives the line breaks, last first, and the deepest column
that was reached; a tab in place of indentation is an error. -/
def emptyLines (indent : Option Nat) (deepest : Nat) (breaks : List Char) (m : Mark) :
    List Char → Option (List Char × Nat × Cursor)
  | [] => some (breaks, max deepest m.column, ⟨m, []⟩)
  | c :: cs =>
    let shallow := indent.all fun n => m.column < n
    if shallow && c = ' ' then emptyLines indent deepest breaks (m.after c) cs
    else if shallow && c = '\t' then none
    else if isBreak c then emptyLines indent (max deepest m.column) (c :: breaks) (m.after c) cs
    else some (breaks, max deepest m.column, ⟨m, c :: cs⟩)

/-- The lines of a block read so far; all lists are last first. -/
structure BlockText where
  text : List Char := []
  /-- The break of the last line, if it has one. -/
  lastBreak : List Char := []
  /-- The breaks of the empty lines after it. -/
  emptyBreaks : List Char := []
  /-- Whether the last line started with a blank. -/
  blankStart : Bool := false

/-- What stands between the last line and the next one. A folded block joins two lines that do not
start with a blank. -/
def BlockText.gap (b : BlockText) (folded blankStart : Bool) : List Char :=
  if folded && b.lastBreak = ['\n'] && !b.blankStart && !blankStart then
    if b.emptyBreaks.isEmpty then [' '] else b.emptyBreaks
  else b.emptyBreaks ++ b.lastBreak

/-- The text at the end of the block. -/
def BlockText.result (b : BlockText) (chomping : Chomping) : String :=
  let ending :=
    match chomping with
    | .strip => []
    | .clip => b.lastBreak
    | .keep => b.emptyBreaks ++ b.lastBreak
  String.ofList (ending ++ b.text).reverse

/-- Reads the lines that start in the column of the block; each takes at least one character of
the text, which ends at `limit`. -/
def blockLines (folded : Bool) (indent limit : Nat) (b : BlockText) (c : Cursor) :
    Option (BlockText × Cursor) :=
  if c.rest.isEmpty || c.column ≠ indent then some (b, c)
  else
    let blankStart := c.rest.head?.any isBlank
    let (line, after) := c.span fun ch => !isBreak ch
    let text := line.reverse ++ (b.gap folded blankStart ++ b.text)
    let (lastBreak, after) :=
      match after.rest with
      | [] => ([], after)
      | ch :: _ => ([ch], after.next)
    match emptyLines (some indent) 0 [] after.mark after.rest with
    | none => none
    | some (emptyBreaks, _, after) =>
      if c.mark.index < after.mark.index ∧ after.mark.index ≤ limit then
        blockLines folded indent limit { text, lastBreak, emptyBreaks, blankStart } after
      else none
termination_by limit - c.mark.index

/-- Reads a block after its indicator; `parent` is the indentation around it. -/
def blockScalar (folded : Bool) (parent : Int) (c : Cursor) : Option (String × Cursor) := do
  let (chomping, increment, length) ← blockHeader? c.rest
  let c := (c.skip length).skipBlanks
  let c := if c.rest.head? = some '#' then (c.span fun ch => !isBreak ch).2 else c
  if !atLineEnd c.rest then none
  else
    let c := c.next
    let given : Option Nat := increment.map fun n => n + parent.toNat
    let (emptyBreaks, deepest, c) ← emptyLines given 0 [] c.mark c.rest
    let indent := given.getD (max deepest (max (parent + 1).toNat 1))
    let limit := c.mark.index + c.rest.length
    let (b, c) ← blockLines folded indent limit { emptyBreaks } c
    return (b.result chomping, c)

end ApiModel.Yaml

import ApiModel.Yaml.Property
import ApiModel.Yaml.Scalar

/-!
# From text to tokens

The lexer keeps the indentation of the open block collections and the places where a key may have
started: that a key was one shows only at the colon after it, and its token is then put in where the
key started. Such a place is given up at the end of its line and after `keyLimit` bytes.
-/

namespace ApiModel.Yaml

/-- A place where a key may have started. -/
structure KeyStart where
  /-- Whether nothing but a key can start here. -/
  required : Bool
  /-- The number of tokens before it. -/
  tokenCount : Nat
  mark : Mark

/-- The most bytes that the start of a key and its colon may be apart. -/
def keyLimit : Nat := 1024

structure Lexer where
  cursor : Cursor
  tokens : Array Token := #[]
  /-- Where the latest key may have started: in each open flow collection, the innermost first, and
  at last in the block around them all. -/
  keyStarts : List (Option KeyStart) := [none]
  /-- The column of the current block collection; none is open at `-1`. -/
  indent : Int := -1
  /-- The columns of the block collections around it. -/
  outerIndents : List Int := []
  /-- Whether a key may start here. -/
  keyAllowed : Bool := true

namespace Lexer

def inFlow (l : Lexer) : Bool := !l.keyStarts.tail.isEmpty

def column (l : Lexer) : Nat := l.cursor.column

def push (l : Lexer) (t : Token) : Lexer := { l with tokens := l.tokens.push t }

/-- Whether a place is too far back for a key. -/
def KeyStart.isStale (k : KeyStart) (m : Mark) : Bool :=
  k.mark.line < m.line || k.mark.byteColumn + keyLimit < m.byteColumn

/-- Gives up the latest place if it is too far back; one that must be a key is an error. The places
around a flow collection come up again when it ends. -/
def dropStaleKey? (l : Lexer) : Option Lexer :=
  match l.keyStarts with
  | some k :: outer =>
    if !KeyStart.isStale k l.cursor.mark then some l
    else if k.required then none
    else some { l with keyStarts := none :: outer }
  | _ => some l

/-- Gives up the latest place; one that must be a key is an error. -/
def dropKey? (l : Lexer) : Option Lexer :=
  match l.keyStarts with
  | some k :: outer => if k.required then none else some { l with keyStarts := none :: outer }
  | _ => some l

/-- Notes that a key may start here. -/
def noteKey? (l : Lexer) : Option Lexer :=
  if l.keyAllowed then
    let required := !l.inFlow && l.indent = l.column
    l.dropKey?.map fun l =>
      { l with
        keyStarts := some ⟨required, l.tokens.size, l.cursor.mark⟩ :: l.keyStarts.tail }
  else some l

/-! ### Block collections -/

/-- Closes the block collections that are indented deeper than a column. -/
def closeBlocks (column : Int) (tokens : Array Token) (indent : Int) :
    List Int → Array Token × Int × List Int
  | outer :: outers =>
    if column < indent then closeBlocks column (tokens.push .blockEnd) outer outers
    else (tokens, indent, outer :: outers)
  | [] => (tokens, indent, [])

def unroll (l : Lexer) (column : Int) : Lexer :=
  if l.inFlow then l
  else
    let (tokens, indent, outerIndents) := closeBlocks column l.tokens l.indent l.outerIndents
    { l with tokens, indent, outerIndents }

/-- Opens a block collection, with its token in a given place, unless one is open in its column. -/
def roll (l : Lexer) (column : Nat) (place : Nat) (start : Token) : Lexer :=
  if l.inFlow || column ≤ l.indent then l
  else
    { l with
      tokens := l.tokens.insertIdxIfInBounds place start
      indent := column
      outerIndents := l.indent :: l.outerIndents }

/-- Opens a block collection here if a key or an item may start here. -/
def openBlock? (l : Lexer) (start : Token) : Option Lexer :=
  if l.inFlow then some l
  else if l.keyAllowed then some (l.roll l.column l.tokens.size start)
  else none

/-- Skips blanks, comments and line breaks; gives whether a key may start after them. Tabs do not
count as blanks where a key may start. A byte order mark is skipped at the start of a line, and what
follows it stands in the second column. -/
def skipGap (flow : Bool) (keyAllowed comment : Bool) (m : Mark) : List Char → Bool × Cursor
  | [] => (keyAllowed, ⟨m, []⟩)
  | c :: cs =>
    if isBreak c then skipGap flow (keyAllowed || !flow) false (m.after c) cs
    else if comment then skipGap flow keyAllowed true (m.after c) cs
    else if c = ' ' || (c = '\t' && (flow || !keyAllowed)) || (c = byteOrderMark && m.column = 0) then
      skipGap flow keyAllowed false (m.after c) cs
    else if c = '#' then skipGap flow keyAllowed true (m.after c) cs
    else (keyAllowed, ⟨m, c :: cs⟩)

/-- Goes to the start of the next token. -/
def advance? (l : Lexer) : Option Lexer :=
  let (keyAllowed, cursor) := skipGap l.inFlow l.keyAllowed false l.cursor.mark l.cursor.rest
  (dropStaleKey? { l with keyAllowed, cursor }).map fun l => l.unroll l.column

/-! ### Tokens -/

/-- Takes characters that are a token. -/
def take (l : Lexer) (n : Nat) (t : Token) : Lexer :=
  { l.push t with cursor := l.cursor.skip n }

/-- Takes what a reader has read. -/
def takeRead (l : Lexer) (t : Token) (after : Cursor) : Lexer :=
  { l.push t with cursor := after }

def documentMarker? (l : Lexer) (t : Token) : Option Lexer :=
  (l.unroll (-1)).dropKey?.map fun l => { l with keyAllowed := false }.take 3 t

def lexDirective? (l : Lexer) : Option Lexer := do
  let l ← (l.unroll (-1)).dropKey?
  let (t, after) ← directive? l.cursor.next
  return { l with keyAllowed := false }.takeRead t after

def flowStart? (l : Lexer) (t : Token) : Option Lexer :=
  l.noteKey?.map fun l =>
    { l with keyStarts := none :: l.keyStarts, keyAllowed := true }.take 1 t

def flowEnd? (l : Lexer) (t : Token) : Option Lexer :=
  l.dropKey?.map fun l =>
    let keyStarts := if l.inFlow then l.keyStarts.tail else l.keyStarts
    { l with keyStarts, keyAllowed := false }.take 1 t

def flowEntry? (l : Lexer) : Option Lexer :=
  l.dropKey?.map fun l => { l with keyAllowed := true }.take 1 .flowEntry

def blockEntry? (l : Lexer) : Option Lexer := do
  let l ← (← l.openBlock? .blockSequenceStart).dropKey?
  return { l with keyAllowed := true }.take 1 .blockEntry

def keyIndicator? (l : Lexer) : Option Lexer := do
  let l ← (← l.openBlock? .blockMappingStart).dropKey?
  return { l with keyAllowed := !l.inFlow }.take 1 .key

/-- A colon after a place where a key may have started shows that it was one. -/
def value? (l : Lexer) : Option Lexer :=
  match l.keyStarts with
  | some k :: outer =>
    let l :=
      { l with
        tokens := l.tokens.insertIdxIfInBounds k.tokenCount .key
        keyStarts := none :: outer
        keyAllowed := false }
    some ((l.roll k.mark.column k.tokenCount .blockMappingStart).take 1 .value)
  | _ =>
    (l.openBlock? .blockMappingStart).map fun l =>
      { l with keyAllowed := !l.inFlow }.take 1 .value

def lexAnchor? (l : Lexer) (t : String → Token) : Option Lexer := do
  let l ← l.noteKey?
  let (name, after) ← anchorName? l.cursor.next
  return { l with keyAllowed := false }.takeRead (t name) after

def lexTag? (l : Lexer) : Option Lexer := do
  let l ← l.noteKey?
  let (t, after) ← tag? l.inFlow l.cursor.next
  return { l with keyAllowed := false }.takeRead t after

def lexBlockScalar? (l : Lexer) (folded : Bool) : Option Lexer := do
  let l ← l.dropKey?
  let (text, after) ← blockScalar folded l.indent l.cursor.next
  return { l with keyAllowed := true }.takeRead (.scalar text false) after

def lexQuoted? (l : Lexer) (read : Folding → Mark → List Char → Option (String × Cursor)) :
    Option Lexer := do
  let l ← l.noteKey?
  let start := l.cursor.next
  let (text, after) ← read {} start.mark start.rest
  return { l with keyAllowed := false }.takeRead (.scalar text false) after

/-- A plain scalar that goes on to the end of its line leaves room for a key. -/
def lexPlain? (l : Lexer) : Option Lexer := do
  let l ← l.noteKey?
  let (f, after) ←
    plainFrom l.inFlow (l.indent + 1).toNat true {} l.cursor.mark l.cursor.rest
  return { l with keyAllowed := f.broken }.takeRead (.scalar f.result true) after

/-- The characters that start tokens of their own or none. -/
def indicators : List Char :=
  [',', '[', ']', '\x7b', '\x7d', '#', '&', '*', '!', '|', '>', '\'', '"', '%', '@', '\x60', '\t']

/-- Whether a plain scalar may start with a character. -/
def startsPlain (flow : Bool) (c : Char) (rest : List Char) : Bool :=
  if c = '-' then !rest.head?.any isBlank
  else if c = '?' || c = ':' then !flow && !atGap rest
  else !indicators.contains c

/-- Reads the token that starts here. -/
def token? (l : Lexer) (c : Char) (rest : List Char) : Option Lexer :=
  let flow := l.inFlow
  let first := l.column = 0
  if first && c = '%' then l.lexDirective?
  else if first && atMarker '-' (c :: rest) then l.documentMarker? .documentStart
  else if first && atMarker '.' (c :: rest) then l.documentMarker? .documentEnd
  else if c = '[' then l.flowStart? .flowSequenceStart
  else if c = '\x7b' then l.flowStart? .flowMappingStart
  else if c = ']' then l.flowEnd? .flowSequenceEnd
  else if c = '\x7d' then l.flowEnd? .flowMappingEnd
  else if c = ',' then l.flowEntry?
  else if c = '-' && atGap rest then l.blockEntry?
  else if c = '?' && (flow || atGap rest) then l.keyIndicator?
  else if c = ':' && (flow || atGap rest) then l.value?
  else if c = '*' then l.lexAnchor? .alias
  else if c = '&' then l.lexAnchor? .anchor
  else if c = '!' then l.lexTag?
  else if c = '|' && !flow then l.lexBlockScalar? false
  else if c = '>' && !flow then l.lexBlockScalar? true
  else if c = '\'' then l.lexQuoted? singleQuotedFrom
  else if c = '"' then l.lexQuoted? doubleQuotedFrom
  else if startsPlain flow c rest then l.lexPlain?
  else none

/-- All tokens of a text of `size` characters; each takes at least one character. -/
def run (size : Nat) (l : Lexer) : Option (List Token) :=
  match l.advance? with
  | none => none
  | some here =>
    match here.cursor.rest with
    | [] => (here.unroll (-1)).dropKey?.map (·.tokens.toList)
    | c :: rest =>
      match here.token? c rest with
      | none => none
      | some next =>
        if l.cursor.mark.index < next.cursor.mark.index ∧ next.cursor.mark.index ≤ size then
          run size next
        else none
termination_by size - l.cursor.mark.index

end Lexer

/-- The tokens of a text that has only characters that are allowed. -/
def tokens? (text : String) : Option (List Token) :=
  let chars := text.toList
  if chars.all isAllowed then
    let cursor := Cursor.ofText chars
    Lexer.run cursor.rest.length { cursor }
  else none

end ApiModel.Yaml

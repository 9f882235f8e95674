import ApiModel.Text.Percent
import ApiModel.Yaml.Cursor
import ApiModel.Yaml.Token

/-!
# Properties of nodes and directives

Anchors name a node, aliases stand for a named node, tags give it a type. A tag is written whole
between angle brackets, or as a suffix to a handle that a directive declares. Each reader starts
after the indicator and gives the cursor after what it has read.
-/

namespace ApiModel.Yaml

def endsAnchor (c : Char) : Bool :=
  isBlank c || isBreak c || c = '?' || c = ':' || c = ',' || c = ']' || c = '\x7d' || c = '%' ||
    c = '@' || c = '\x60'

/-- The name of an anchor or of an alias. -/
def anchorName? (c : Cursor) : Option (String × Cursor) :=
  let (name, after) := c.span isNameChar
  if name.isEmpty || !endsOr endsAnchor after.rest then none
  else some (String.ofList name, after)

/-! ### Tags -/

/-- Flow indicators belong only to tags that stand in brackets of their own, and to prefixes. -/
def isTagChar (bracketed : Bool) (c : Char) : Bool :=
  isNameChar c || c = ';' || c = '/' || c = '?' || c = ':' || c = '@' || c = '&' || c = '=' ||
    c = '+' || c = '$' || c = '.' || c = '%' || c = '!' || c = '~' || c = '*' || c = '\'' ||
    c = '(' || c = ')' || (bracketed && (c = ',' || c = '[' || c = ']'))

/-- Tag text; there is none without a character. -/
def tagText? (bracketed : Bool) (c : Cursor) : Option (Tag × Cursor) :=
  let (text, after) := c.span (isTagChar bracketed)
  if text.isEmpty then none else (Tag.ofText? text).map fun tag => (tag, after)

/-- A tag that is written whole has the empty handle, and so has the tag `!`. -/
def tagParts? (c : Cursor) : Option (String × Tag × Cursor) :=
  match c.rest with
  | '<' :: _ =>
    match tagText? true c.next with
    | some (tag, after) =>
      if after.rest.head? = some '>' then some ("", tag, after.next) else none
    | none => none
  | _ =>
    let (name, after) := c.span isNameChar
    if after.rest.head? = some '!' then
      (tagText? false after.next).map fun (suffix, after) =>
        (String.ofList ('!' :: name ++ ['!']), suffix, after)
    else
      let (text, after) := c.span (isTagChar false)
      (Tag.ofText? text).map fun suffix =>
        if suffix.isEmpty then ("", .nonSpecific, after) else ("!", suffix, after)

/-- A tag ends at a gap, or at a comma between the items of a flow collection. -/
def tag? (flow : Bool) (c : Cursor) : Option (Token × Cursor) :=
  match tagParts? c with
  | some (handle, suffix, after) =>
    if atGap after.rest || (flow && after.rest.head? = some ',') then
      some (.tag handle suffix, after)
    else none
  | none => none

/-! ### Directives -/

/-- One to nine digits. -/
def versionNumber? (c : Cursor) : Option (Nat × Cursor) :=
  let (digits, after) := c.span Char.isDigit
  if digits.isEmpty || 9 < digits.length then none
  else some (digits.foldl (fun n d => 10 * n + (d.toNat - '0'.toNat)) 0, after)

def versionDirective? (c : Cursor) : Option (Token × Cursor) := do
  let (major, c) ← versionNumber? c
  if c.rest.head? ≠ some '.' then none
  else
    let (minor, c) ← versionNumber? c.next
    return (.versionDirective major minor, c)

/-- The handle of a directive is `!`, or has a second `!` at its end. -/
def directiveHandle? (c : Cursor) : Option (String × Cursor) :=
  if c.rest.head? ≠ some '!' then none
  else
    let (name, after) := c.next.span isNameChar
    if after.rest.head? = some '!' then some (String.ofList ('!' :: name ++ ['!']), after.next)
    else if name.isEmpty then some ("!", after)
    else none

def tagDirective? (c : Cursor) : Option (Token × Cursor) := do
  let (handle, c) ← directiveHandle? c
  if !c.rest.head?.any isBlank then none
  else
    let (stem, c) ← tagText? true c.skipBlanks
    if atGap c.rest then return (.tagDirective handle stem, c) else none

/-- The rest of a line that holds blanks and a comment only. -/
def skipLineEnd? (c : Cursor) : Option Cursor :=
  let c := c.skipBlanks
  let c := if c.rest.head? = some '#' then (c.span fun ch => !isBreak ch).2 else c
  if atLineEnd c.rest then some c.next else none

/-- A directive takes its whole line; there are no others than these two. -/
def directive? (c : Cursor) : Option (Token × Cursor) := do
  let (name, c) := c.span isNameChar
  if !atGap c.rest then none
  else
    let (token, c) ←
      match String.ofList name with
      | "YAML" => versionDirective? c.skipBlanks
      | "TAG" => tagDirective? c.skipBlanks
      | _ => none
    return (token, ← skipLineEnd? c)

end ApiModel.Yaml

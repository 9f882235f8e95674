import ApiModel.Text.Percent

/-!
# Tags of YAML

A tag is a string of bytes, which percent escapes may fill with what is no text. It ends before its
first zero byte. A tag that starts with an exclamation mark is local, that is, it belongs to an
application; those of the core types start with `Tag.coreStem`.
-/

namespace ApiModel.Yaml

abbrev Tag := List UInt8

namespace Tag

def ofString (s : String) : Tag := s.toUTF8.toList

/-- The tag `!`, which is also what the handle `!` stands for. -/
def nonSpecific : Tag := ofString "!"

def coreStem : Tag := ofString "tag:yaml.org,2002:"

/-- The tag of a core type. -/
def core (name : String) : Tag := coreStem ++ ofString name

def isLocal (t : Tag) : Bool := t.head? = nonSpecific.head?

/-- Whether the bytes are text in UTF-8. -/
def isText (t : Tag) : Bool := (String.fromUTF8? ⟨t.toArray⟩).isSome

/-- How many bytes belong to a first byte that is escaped, besides itself. -/
def trailing? (first : UInt8) : Option Nat :=
  if first < 0x80 then some 0
  else if first < 0xC0 then none
  else if first < 0xE0 then some 1
  else if first < 0xF0 then some 2
  else if first < 0xF8 then some 3
  else none

/-- The bytes of ASCII text with escapes. The bytes of one character are escaped together, and
`trailing` of them are still to come. -/
def bytes? (trailing : Nat) : List Char → Option (List UInt8)
  | '%' :: high :: low :: cs => do
    let b ← Percent.byte? high low
    if trailing = 0 then return b :: (← bytes? (← trailing? b) cs)
    else if Utf8.isContinuation b then return b :: (← bytes? (trailing - 1) cs)
    else none
  | c :: cs => if trailing = 0 && c ≠ '%' then (bytes? 0 cs).map (c.toUInt8 :: ·) else none
  | [] => if trailing = 0 then some [] else none

/-- The tag that ASCII text with escapes spells. -/
def ofText? (text : List Char) : Option Tag := (bytes? 0 text).map fun bs => bs.takeWhile (· ≠ 0)

end Tag

end ApiModel.Yaml

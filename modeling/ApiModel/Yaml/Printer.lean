import ApiModel.Tree
import ApiModel.Yaml.Style

/-!
# YAML text of trees

Records and lists are written as block collections, one entry or item to a line. A list under a key
has the same indentation as the key; a collection inside a list starts on the line of its item. A
variant is written as a tag. Keys that are long or have line breaks get an indicator of their own.
-/

namespace ApiModel.Yaml

/-- Numbers have the layout of JSON, but exponents have no plus sign. -/
def numberFormat : Decimal.Format := { Json.numberFormat with plusSign := false }

/-- The longest key, in bytes, that is written without an indicator. -/
def simpleKeyLimit : Nat := 128

def isSimpleKey (key : String) : Bool :=
  key.utf8ByteSize ≤ simpleKeyLimit &&
    !key.toList.any fun c => isBreak c || c = '\r' || c = '\u0085'

/-- Puts text before the first line. -/
def attach (text : String) : List String → List String
  | [] => [text]
  | line :: lines => (text ++ line) :: lines

/-- Puts a collection behind an indicator. -/
def hang (lines : List String) : List String := attach " " (padRest lines)

/-- The lines of a tree that has no entries and no items. -/
def leafLines : Tree → List String
  | .null => ["null"]
  | .bool b => [if b then "true" else "false"]
  | .num n => [n.render numberFormat]
  | .str s => textLines s
  | .list _ => ["[]"]
  | .record _ => ["\x7b\x7d"]
  | .variant tag _ => ["!" ++ tag]

mutual

/-- The lines of a tree after its key; the first continues the line of the key. -/
def afterKey : Tree → List String
  | .list (item :: items) => "" :: itemLines (item :: items)
  | .record (field :: fields) => "" :: (entryLines (field :: fields)).map pad
  | .variant tag payload => attach (" !" ++ tag) (afterKey payload)
  | leaf => attach " " (leafLines leaf)

/-- The lines of a tree after an indicator; the first continues the line of the indicator. -/
def afterIndicator : Tree → List String
  | .list (item :: items) => hang (itemLines (item :: items))
  | .record (field :: fields) => hang (entryLines (field :: fields))
  | .variant tag payload => attach (" !" ++ tag) (afterKey payload)
  | leaf => attach " " (leafLines leaf)

def itemLines : List Tree → List String
  | [] => []
  | item :: items => attach "-" (afterIndicator item) ++ itemLines items

def entryLines : List (String × Tree) → List String
  | [] => []
  | (key, value) :: fields =>
    (if isSimpleKey key then attach (String.join (textLines key) ++ ":") (afterKey value)
      else attach "? " (textLines key) ++ attach ":" (afterIndicator value))
      ++ entryLines fields

end

/-- The lines of a whole document. -/
def documentLines : Tree → List String
  | .list (item :: items) => itemLines (item :: items)
  | .record (field :: fields) => entryLines (field :: fields)
  | .variant tag payload => attach ("!" ++ tag) (afterKey payload)
  | leaf => leafLines leaf

/-- A line with its end; a separator at the end of the line is one already. -/
def endLine (line : String) : String :=
  if line.toList.getLast?.any isBreak then line else line ++ "\n"

def render (t : Tree) : String := String.join ((documentLines t).map endLine)

end ApiModel.Yaml

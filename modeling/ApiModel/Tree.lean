import ApiModel.Json.Basic

/-!
# Trees to be written

A tree is a JSON value in which some nodes are marked as one of several variants. In JSON a variant
is an object with one key; formats with tags write it as a tag.
-/

namespace ApiModel

inductive Tree
  | null
  | bool (value : Bool)
  | num (value : Number)
  | str (value : String)
  | list (items : List Tree)
  | record (fields : List (String × Tree))
  | variant (tag : String) (payload : Tree)

namespace Tree

mutual

def ofJson : Json → Tree
  | .null => .null
  | .bool b => .bool b
  | .num n => .num n
  | .str s => .str s
  | .arr items => .list (ofItems items)
  | .obj fields => .record (ofFields fields)

def ofItems : List Json → List Tree
  | [] => []
  | v :: items => ofJson v :: ofItems items

def ofFields : List (String × Json) → List (String × Tree)
  | [] => []
  | (k, v) :: fields => (k, ofJson v) :: ofFields fields

end

mutual

def toJson : Tree → Json
  | .null => .null
  | .bool b => .bool b
  | .num n => .num n
  | .str s => .str s
  | .list items => .arr (toItems items)
  | .record fields => .obj (toFields fields)
  | .variant tag payload => .obj [(tag, toJson payload)]

def toItems : List Tree → List Json
  | [] => []
  | t :: items => toJson t :: toItems items

def toFields : List (String × Tree) → List (String × Json)
  | [] => []
  | (k, t) :: fields => (k, toJson t) :: toFields fields

end

/-! ### Parts of records -/

abbrev Fields := List (String × Tree)

def nat (n : Nat) : Tree := .num (.int n)

def strings (xs : List String) : Tree := .list (xs.map .str)

/-- A field that is written only if it has a value. -/
def field? {α : Type} (key : String) (f : α → Tree) : Option α → Fields
  | none => []
  | some a => [(key, f a)]

/-- A flag that is written only if it is set. -/
def flag (key : String) (b : Bool) : Fields := if b then [(key, .bool true)] else []

/-- Extensions are written only if there are any. -/
def extensionFields (fields : List (String × Json)) : Fields :=
  if fields.isEmpty then [] else [("extensions", .record (ofFields fields))]

end Tree

end ApiModel

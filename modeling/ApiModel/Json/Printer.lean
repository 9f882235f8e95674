import ApiModel.Json.Basic

/-!
# JSON text

`compact` has no blanks; `pretty` puts every item on a line of its own, two blanks deeper than its
parent, and keeps empty arrays and objects closed. Quotes, backslashes and control characters are
escaped, all other characters stand for themselves.
-/

namespace ApiModel

/-- Numbers are positional from `0.00001` and below `10 ^ 16`; other exponents carry their sign. -/
def Json.numberFormat : Decimal.Format := ⟨-5, 16, true⟩

def Number.render (f : Decimal.Format) : Number → String
  | .int n => toString n
  | .float x => x.shortest.render f

namespace Json

def hexDigits (width n : Nat) : List Char :=
  let digits := Nat.toDigits 16 n
  List.replicate (width - digits.length) '0' ++ digits

def escapeChar (c : Char) : List Char :=
  match c with
  | '"' => ['\\', '"']
  | '\\' => ['\\', '\\']
  | '\n' => ['\\', 'n']
  | '\r' => ['\\', 'r']
  | '\t' => ['\\', 't']
  | c =>
    if c.toNat = 8 then ['\\', 'b']
    else if c.toNat = 12 then ['\\', 'f']
    else if c.toNat < 32 then '\\' :: 'u' :: hexDigits 4 c.toNat
    else [c]

def quote (s : String) : String :=
  String.ofList ('"' :: (s.toList.flatMap escapeChar ++ ['"']))

mutual

def compact : Json → String
  | .null => "null"
  | .bool b => if b then "true" else "false"
  | .num n => n.render numberFormat
  | .str s => quote s
  | .arr items => "[" ++ ",".intercalate (compactItems items) ++ "]"
  | .obj fields => "\x7b" ++ ",".intercalate (compactFields fields) ++ "\x7d"

def compactItems : List Json → List String
  | [] => []
  | v :: items => compact v :: compactItems items

def compactFields : List (String × Json) → List String
  | [] => []
  | (k, v) :: fields => (quote k ++ ":" ++ compact v) :: compactFields fields

end

/-- How a value is named: text by itself, other values by their JSON text. -/
def label (v : Json) : String := v.str?.getD v.compact

/-- A line break and the blanks of a depth. -/
def newline (depth : Nat) : String :=
  String.ofList ('\n' :: List.replicate (2 * depth) ' ')

/-- Items between brackets, each on its own line at `depth + 1`. -/
def block (opening closing : String) (depth : Nat) : List String → String
  | [] => opening ++ closing
  | items =>
    opening ++ newline (depth + 1) ++ ("," ++ newline (depth + 1)).intercalate items
      ++ newline depth ++ closing

mutual

def prettyAt (depth : Nat) : Json → String
  | .arr items => block "[" "]" depth (prettyItems (depth + 1) items)
  | .obj fields => block "\x7b" "\x7d" depth (prettyFields (depth + 1) fields)
  | .null => "null"
  | .bool b => if b then "true" else "false"
  | .num n => n.render numberFormat
  | .str s => quote s

def prettyItems (depth : Nat) : List Json → List String
  | [] => []
  | v :: items => prettyAt depth v :: prettyItems depth items

def prettyFields (depth : Nat) : List (String × Json) → List String
  | [] => []
  | (k, v) :: fields => (quote k ++ ": " ++ prettyAt depth v) :: prettyFields depth fields

end

def pretty (v : Json) : String := prettyAt 0 v

end Json

end ApiModel

import ApiModel.Json.Basic
import ApiModel.Yaml.Lexer
import ApiModel.Yaml.Node

/-!
# JSON values in YAML text

Plain scalars are null, booleans and numbers if they are spelled so, all other scalars are text,
unless a tag says what they are. Keys are scalars and stand for their spelling. Numbers that JSON
does not have, infinite ones among them, are null; whole numbers beyond 64 bits are refused, and so
is nesting beyond `maxDepth` and a document that its aliases make too large.
-/

namespace ApiModel.Yaml

def isNullText (s : String) : Bool := s = "null" || s = "Null" || s = "NULL" || s = "~"

def boolOfText? (s : String) : Option Bool :=
  if s = "true" || s = "True" || s = "TRUE" then some true
  else if s = "false" || s = "False" || s = "FALSE" then some false
  else none

/-- The number that one or more digits name. -/
def naturalOfDigits? (radix : Nat) (digits : List Char) : Option Nat :=
  if digits.isEmpty then none
  else
    digits.foldl
      (fun n? c => n?.bind fun n => (Percent.hexValue? c).bind fun d =>
        if d < radix then some (radix * n + d) else none)
      (some 0)

/-- Digits after an unneeded zero are text. -/
def hasLeadingZero : List Char → Bool
  | '0' :: c :: cs => (c :: cs).all Char.isDigit
  | _ => false

/-- The magnitude of a whole number; a letter after a zero gives the radix. -/
def magnitude? (cs : List Char) : Option Nat :=
  match cs with
  | '0' :: 'x' :: digits => naturalOfDigits? 16 digits
  | '0' :: 'o' :: digits => naturalOfDigits? 8 digits
  | '0' :: 'b' :: digits => naturalOfDigits? 2 digits
  | digits => if hasLeadingZero digits then none else naturalOfDigits? 10 digits

/-- A whole number of at most 128 bits. -/
def integerOfText? (cs : List Char) : Option Int :=
  let (minus, body) := Decimal.spanSign cs
  match magnitude? body with
  | some n =>
    if minus then (if n ≤ Nat.pow 2 127 then some (-n) else none)
    else if n < Nat.pow 2 128 then some n
    else none
  | none => none

/-- A number with a fraction or an exponent, written by itself or after a plus. -/
def floatOfText? (cs : List Char) : Option Binary64 :=
  let decimal? :=
    match cs with
    | '+' :: c :: cs => if c = '+' || c = '-' then none else Decimal.parse? (c :: cs)
    | cs => Decimal.parse? cs
  decimal?.bind Binary64.ofDecimal?

/-- Spellings of infinite numbers and of what is no number. -/
def isNonFinite (s : String) : Bool :=
  [".inf", ".Inf", ".INF", "+.inf", "+.Inf", "+.INF", "-.inf", "-.Inf", "-.INF", ".nan", ".NaN",
    ".NAN"].contains s

/-- A number with a fraction or an exponent as JSON has it. -/
def floatValue? (s : String) : Option Json :=
  if isNonFinite s then some .null
  else (floatOfText? s.toList).map fun x => .num (.float x)

/-- A whole number that fits into 64 bits, with a sign or without. -/
def integerValue? (n : Int) : Option Json :=
  if -Nat.pow 2 63 ≤ n && n < Nat.pow 2 64 then some (.num (.int n)) else none

/-- What a plain scalar without a tag stands for. -/
def plainValue? (s : String) : Option Json :=
  if s.isEmpty || isNullText s then some .null
  else
    match boolOfText? s, integerOfText? s.toList with
    | some b, _ => some (.bool b)
    | none, some n => integerValue? n
    | none, none =>
      if hasLeadingZero (Decimal.spanSign s.toList).2 then some (.str s)
      else some ((floatValue? s).getD (.str s))

/-- Whether a node may not be read for its tag, which names a variant of its own. -/
def isRefused (tag : Option Tag) : Bool := tag.any fun t => t.isLocal && t.isText

/-- What a scalar stands for. A tag of the core types must fit the text; a local tag says nothing if
it is no text. -/
def scalarValue? (tag : Option Tag) (s : String) (plain : Bool) : Option Json :=
  let untagged := if plain then plainValue? s else some (.str s)
  match tag with
  | none => untagged
  | some t =>
    if t = .core "bool" then (boolOfText? s).map .bool
    else if t = .core "int" then (integerOfText? s.toList).bind integerValue?
    else if t = .core "float" then floatValue? s
    else if t = .core "null" then (if isNullText s then some .null else none)
    else if isRefused tag then none
    else if t.isLocal then untagged
    else some (.str s)

/-! ### Documents -/

/-- How deep collections may be nested. -/
def maxDepth : Nat := 128

/-- How often aliases may be followed for each part of a document. -/
def aliasLimit : Nat := 100

/-- Reading a document counts the aliases that were followed. -/
abbrev ValueReader := StateT Nat Option

namespace Content

/-- The node that a node stands for. -/
def follow (c : Content) : Node → ValueReader Node
  | .reference number => do
    modify (· + 1)
    if aliasLimit * c.size < (← get) then failure
    else
      match Assoc.get? number c.anchored with
      | some n => return n
      | none => failure
  | n => return n

/-- The text of a key; only scalars are keys. -/
def key (c : Content) (n : Node) : ValueReader String := do
  match ← c.follow n with
  | .scalar _ text _ => return text
  | _ => failure

/-- The value of a node; of entries with one key the last counts, in the place of the first. -/
def value (c : Content) (depth : Nat) (n : Node) : ValueReader Json := do
  match ← c.follow n, depth with
  | .scalar tag text plain, _ =>
    match scalarValue? tag text plain with
    | some v => return v
    | none => failure
  | .sequence tag items, depth + 1 =>
    if isRefused tag then failure
    else return .arr (← items.mapM fun item => c.value depth item)
  | .mapping tag entries, depth + 1 =>
    if isRefused tag then failure
    else
      let fields ← entries.mapM fun (k, v) => return (← c.key k, ← c.value depth v)
      return .obj (Assoc.ofList fields)
  | _, _ => failure

end Content

/-- The value that a text holds. -/
def value? (text : String) : Option Json := do
  let content ← Content.ofTokens? (← tokens? text)
  let (v, _) ← (content.value maxDepth content.root).run 0
  return v

end ApiModel.Yaml

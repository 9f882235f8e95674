import ApiModel.Json.Printer
import ApiModel.Yaml.Value

/-!
# The spelling of text in YAML

Text is written plain if it reads back as the same text. Else it stands in single quotes, or in
double quotes if it has characters that must be escaped. Text with line feeds is written as a
literal block where that keeps all of it.
-/

namespace ApiModel.Yaml

inductive Style
  | plain
  | singleQuoted
  | doubleQuoted
  | literal
deriving DecidableEq

/-- Whether a plain scalar is text, and not digits that others may read as a number. -/
def readsAsText (s : String) : Bool :=
  match plainValue? s with
  | some (.str _) => !hasLeadingZero (Decimal.spanSign s.toList).2
  | _ => false

/-- Whether a character needs no escape. -/
def isPrintable (c : Char) : Bool :=
  let n := c.toNat
  n = 10 || (0x20 ≤ n && n ≤ 0x7E) || (0xA0 ≤ n && n ≤ 0xFFFD && n ≠ 0xFEFF) || 0x10000 ≤ n

/-- Whether a character of one class comes just before one of another. -/
def hasPair (p q : Char → Bool) : List Char → Bool
  | a :: b :: cs => (p a && q b) || hasPair p q (b :: cs)
  | _ => false

def hasColonBeforeGap : List Char → Bool
  | [] => false
  | c :: cs => (c = ':' && atGap cs) || hasColonBeforeGap cs

/-- Whether text starts like something else than a plain scalar. -/
def startsLikeIndicator : List Char → Bool
  | [] => true
  | c :: cs =>
    Lexer.indicators.contains c || ((c = '?' || c = '-') && atGap cs) ||
      (c :: cs).take 3 = ['-', '-', '-'] || (c :: cs).take 3 = ['.', '.', '.']

def isSpace (c : Char) : Bool := c = ' '

def allowsPlain (cs : List Char) : Bool :=
  cs.all isPrintable && !cs.any isBreak && !startsLikeIndicator cs && !hasColonBeforeGap cs &&
    !hasPair isBlank (· = '#') cs && !cs.head?.any isSpace && !cs.getLast?.any isSpace

def allowsSingleQuoted (cs : List Char) : Bool :=
  cs.all isPrintable && !hasPair isBreak isSpace cs && !hasPair isSpace isBreak cs

def allowsLiteral (cs : List Char) : Bool :=
  cs.all isPrintable && !hasPair isSpace isBreak cs && !cs.getLast?.any isSpace

/-- The style for text that is not plain. -/
def quotedStyle (cs : List Char) : Style :=
  if allowsSingleQuoted cs then .singleQuoted else .doubleQuoted

def styleOf (s : String) : Style :=
  let cs := s.toList
  if cs.contains '\n' then (if allowsLiteral cs then .literal else .doubleQuoted)
  else if readsAsText s && allowsPlain cs then .plain
  else quotedStyle cs

/-! ### Characters -/

/-- The escape of a character by its number. -/
def numericEscape (c : Char) : List Char :=
  let n := c.toNat
  let (letter, width) := if n ≤ 0xFF then ('x', 2) else if n ≤ 0xFFFF then ('u', 4) else ('U', 8)
  '\\' :: letter :: (Json.hexDigits width n).map (·.toUpper)

/-- A character between double quotes. -/
def doubleQuotedChar (c : Char) : List Char :=
  match c with
  | '\x00' => ['\\', '0']
  | '\x07' => ['\\', 'a']
  | '\x08' => ['\\', 'b']
  | '\t' => ['\\', 't']
  | '\n' => ['\\', 'n']
  | '\x0b' => ['\\', 'v']
  | '\x0c' => ['\\', 'f']
  | '\r' => ['\\', 'r']
  | '\x1b' => ['\\', 'e']
  | '"' => ['\\', '"']
  | '\\' => ['\\', '\\']
  | '\u0085' => ['\\', 'N']
  | c =>
    if c = lineSeparator then ['\\', 'L']
    else if c = paragraphSeparator then ['\\', 'P']
    else if isPrintable c then [c]
    else numericEscape c

/-- A character between single quotes. -/
def singleQuotedChar (c : Char) : List Char := if c = '\'' then ['\'', '\''] else [c]

/-! ### Lines -/

/-- The lines of a text: line feeds end them, and so do separators, which stay at their ends. -/
def linesFrom (line : List Char) : List Char → List String
  | [] => if line.isEmpty then [] else [String.ofList line.reverse]
  | c :: cs =>
    if c = '\n' then String.ofList line.reverse :: linesFrom [] cs
    else if isBreak c then String.ofList (c :: line).reverse :: linesFrom [] cs
    else linesFrom (c :: line) cs

/-- Whether a line holds no characters before its end. -/
def isEmptyLine (line : String) : Bool := line.toList.head?.all isBreak

/-- A line two columns to the right; empty lines are not padded. -/
def pad (line : String) : String := if isEmptyLine line then line else "  " ++ line

/-- The header of a literal block: the indentation if the text does not show it, and what becomes
of the line breaks at the end. -/
def literalHeader (cs : List Char) : String :=
  let indentation := if cs.head?.any fun c => isSpace c || isBreak c then "2" else ""
  let chomping :=
    match cs.reverse with
    | last :: before =>
      if !isBreak last then "-" else if before.head?.all isBreak then "+" else ""
    | [] => "-"
  "|" ++ indentation ++ chomping

/-- The first line continues the current line, the others are padded. -/
def padRest : List String → List String
  | [] => []
  | first :: rest => first :: rest.map pad

/-- The lines of a scalar in a style. -/
def styledLines (style : Style) (cs : List Char) : List String :=
  match style with
  | .plain => [String.ofList cs]
  | .singleQuoted => padRest (linesFrom [] ('\'' :: (cs.flatMap singleQuotedChar ++ ['\''])))
  | .doubleQuoted => [String.ofList ('"' :: (cs.flatMap doubleQuotedChar ++ ['"']))]
  | .literal => padRest (literalHeader cs :: linesFrom [] cs)

def textLines (s : String) : List String := styledLines (styleOf s) s.toList

end ApiModel.Yaml

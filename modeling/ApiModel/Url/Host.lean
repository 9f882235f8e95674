import ApiModel.Url.Domain.Basic

/-!
# Hosts of URLs

A host is a name, an IPv4 address or an IPv6 address. The names of special schemes are domains, which
are kept in their ASCII form. Where the last label of a domain is a number, the whole name must be
an IPv4 address.
-/

namespace ApiModel

inductive Host
  | domain (name : String)
  | ipv4 (address : Nat)
  | ipv6 (pieces : List Nat)
deriving DecidableEq

namespace Host

/-- Characters that no host may have. -/
def isForbidden (c : Char) : Bool :=
  c.toNat = 0 || "\t\n\r #/:<>?@[\\]^|".toList.contains c

/-- Characters that no name of a network host may have. -/
def isForbiddenInDomain (c : Char) : Bool :=
  isForbidden c || c.toNat < 32 || c = '%' || c.toNat = 127 || c = Utf8.replacement

/-- The number that digits of a base name; nothing if there is another character. -/
def readDigits? (base : Nat) (cs : List Char) : Option Nat :=
  cs.foldlM (fun n c => do
    let d ← Percent.hexValue? c
    if d < base then some (base * n + d) else none) 0

/-- Hexadecimal after `0x`, octal after another leading zero, else decimal. -/
def ipv4Number? : List Char → Option Nat
  | [] => none
  | '0' :: 'x' :: cs => readDigits? 16 cs
  | '0' :: 'X' :: cs => readDigits? 16 cs
  | '0' :: c :: cs => readDigits? 8 (c :: cs)
  | cs => readDigits? 10 cs

/-- The labels of a name, without an empty last one. -/
def labels (cs : List Char) : List (List Char) :=
  let all := Split.parts '.' cs
  if all.getLast? = some [] && 1 < all.length then all.dropLast else all

def endsInNumber (cs : List Char) : Bool :=
  match (labels cs).getLast? with
  | some last => (!last.isEmpty && last.all Char.isDigit) ||
      (last.take 2 = ['0', 'x'] || last.take 2 = ['0', 'X']) && (ipv4Number? last).isSome
  | none => false

/-- All numbers but the last fill one byte each, the last fills what is left. -/
def ipv4? (cs : List Char) : Option Nat := do
  let numbers ← (labels cs).mapM ipv4Number?
  if 4 < numbers.length then none
  else
    let last ← numbers.getLast?
    let first := numbers.dropLast
    if first.all (· < 256) && last < Nat.pow 256 (5 - numbers.length) then
      some (first.zipIdx.foldl (fun n (b, i) => n + b * Nat.pow 256 (3 - i)) last)
    else none

/-! ### IPv6 -/

/-- Four decimal numbers below 256 without leading zeros, as two pieces. -/
def dottedPieces? (cs : List Char) : Option (List Nat) := do
  let numbers ← (Split.parts '.' cs).mapM fun part =>
    match part with
    | [] => none
    | ['0'] => some 0
    | '0' :: _ => none
    | part => (readDigits? 10 part).bind fun n => if n < 256 then some n else none
  match numbers with
  | [a, b, c, d] => some [256 * a + b, 256 * c + d]
  | _ => none

/-- Pieces of one to four hexadecimal digits between colons; the last may be a dotted address. -/
def pieces? : List (List Char) → Option (List Nat)
  | [] => some []
  | part :: rest =>
    if rest.isEmpty && part.contains '.' then dottedPieces? part
    else if part.isEmpty || 4 < part.length then none
    else do
      let piece ← readDigits? 16 part
      let more ← pieces? rest
      some (piece :: more)

/-- The pieces of a text between colons; no text has no pieces. -/
def colonPieces? (cs : List Char) : Option (List Nat) :=
  if cs.isEmpty then some [] else pieces? (Split.parts ':' cs)

/-- Divides at the first double colon. -/
def splitDoubleColon? : List Char → Option (List Char × List Char)
  | ':' :: ':' :: after => some ([], after)
  | c :: cs => (splitDoubleColon? cs).map fun (before, after) => (c :: before, after)
  | [] => none

/-- Eight pieces, or fewer with one double colon for the zeros left out. -/
def ipv6? (cs : List Char) : Option (List Nat) :=
  match splitDoubleColon? cs with
  | none => (colonPieces? cs).bind fun ps => if ps.length = 8 then some ps else none
  | some (before, after) => do
    let left ← colonPieces? before
    let right ← colonPieces? after
    let known := left.length + right.length
    if before.contains '.' || 7 < known then none
    else some (left ++ List.replicate (8 - known) 0 ++ right)

/-! ### Reading -/

/-- Control characters and all beyond ASCII become percent escapes. -/
def escapeControls (cs : List Char) : List Char :=
  cs.flatMap fun c => if c.toNat < 32 || 126 < c.toNat then Percent.escape c else [c]

/-- The host in the text between the user part and the port. Schemes of the web read names and IPv4
addresses in it, the others take it as it is. -/
def parse? (web : Bool) (cs : List Char) : Option Host :=
  match cs with
  | '[' :: rest =>
    if rest.getLast? = some ']' then (ipv6? rest.dropLast).map .ipv6 else none
  | cs =>
    if web then
      match Domain.ascii? (Percent.decodeFrom [] cs) with
      | none => none
      | some name =>
        if name.isEmpty || name.any isForbiddenInDomain then none
        else if endsInNumber name then (ipv4? name).map .ipv4
        else some (.domain (String.ofList name))
    else if cs.any isForbidden then none
    else some (.domain (String.ofList (escapeControls cs)))

end Host

end ApiModel

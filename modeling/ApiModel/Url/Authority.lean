import ApiModel.Number.Decimal
import ApiModel.Url.Host
import ApiModel.Url.Path

/-!
# Authorities of URLs

What stands between the double slash and the path: maybe a user and a password up to the last `@`,
a host, and maybe a port. Each reader gives the text after what it has read.
-/

namespace ApiModel.Url

/-- Whether user, host and port end before a character. -/
def endsAuthority (special : Bool) (c : Char) : Bool := isSlash special c || endsPath c

/-- The text after the user part, and whether that names a user or a password. An `@` with nothing
before it must have a host after it. -/
def dropUser? (special : Bool) (cs : List Char) : Option (Bool × List Char) :=
  let authority := cs.takeWhile fun c => !endsAuthority special c
  let rest := cs.drop authority.length
  match (Split.parts '@' authority).reverse with
  | tail :: users@(_ :: _) =>
    let user := ['@'].intercalate users.reverse
    if user.isEmpty then
      if tail.isEmpty && !rest.isEmpty then none else some (false, tail ++ rest)
    else some (user ≠ [':'], tail ++ rest)
  | _ => some (false, cs)

/-- The text of the host, up to a colon outside of brackets. -/
def spanHost (special inBrackets : Bool) : List Char → List Char × List Char
  | [] => ([], [])
  | c :: cs =>
    if (c = ':' && !inBrackets) || endsAuthority special c then ([], c :: cs)
    else
      let inside := if c = '[' then true else if c = ']' then false else inBrackets
      let (host, rest) := spanHost special inside cs
      (c :: host, rest)

/-- The port after a colon; without digits there is none. -/
def port? (cs : List Char) : Option (Option Nat × List Char) :=
  match cs with
  | ':' :: cs =>
    let digits := cs.takeWhile Char.isDigit
    let rest := cs.drop digits.length
    if !rest.head?.all (endsAuthority true) || 65535 < Decimal.ofDigits digits then none
    else some (if digits.isEmpty then none else some (Decimal.ofDigits digits), rest)
  | cs => some (none, cs)

/-- Host and port, and the text after them. Only a URL that is not special may go without a host,
and then it has neither user nor port. -/
def authority? (special : Bool) (cs : List Char) :
    Option (Option Host × Option Nat × List Char) := do
  let (hasUser, cs) ← dropUser? special cs
  let (host, rest) := spanHost special false cs
  if host.isEmpty then
    if special || hasUser || rest.head? = some ':' then none else some (none, none, rest)
  else
    let host ← Host.parse? special host
    let (port, rest) ← port? rest
    some (some host, port, rest)

end ApiModel.Url

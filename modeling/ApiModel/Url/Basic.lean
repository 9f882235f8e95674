import ApiModel.Url.Authority

/-!
# URLs

What two references to one document have in common: scheme, host, port and path of an absolute URL.
User part, query and fragment are skipped. `Url.parse?` fails where the text is no absolute URL.

Schemes of the web (`http`, `https`, `ws`, `wss`, `ftp`) and `file` are special: a backslash is a
slash in them, and their path is hierarchical. A port that is the default of its scheme is dropped.
Other schemes have a host only after a double slash, and without any slash a path that is taken as
it is.
-/

namespace ApiModel

structure Url where
  scheme : String
  host : Option Host
  port : Option Nat
  path : String
deriving DecidableEq

namespace Url

inductive SchemeKind
  | web (defaultPort : Nat)
  | file
  | other

def schemeKind : String → SchemeKind
  | "http" | "ws" => .web 80
  | "https" | "wss" => .web 443
  | "ftp" => .web 21
  | "file" => .file
  | _ => .other

/-- Blanks and control characters around the text do not count. -/
def trim (cs : List Char) : List Char :=
  let outer (c : Char) : Bool := c.toNat ≤ 32
  ((cs.dropWhile outer).reverse.dropWhile outer).reverse

/-- A letter, then letters, digits, `+`, `-` and `.` up to a colon. -/
def scheme? (cs : List Char) : Option (String × List Char) := do
  let (before, rest) ← Split.once? ':' cs
  let name := dropIgnored before
  let first ← name.head?
  if first.isAlpha && name.all fun c => c.isAlphanum || c = '+' || c = '-' || c = '.' then
    some (String.ofList (name.map Char.toLower), rest)
  else none

/-- The path after an authority starts with a slash. Only in a URL that is not special it may be
missing. -/
def pathAfterAuthority (special : Bool) (cs : List Char) : String :=
  let path :=
    match cs with
    | c :: rest =>
      if isSlash special c then (Path.ofText false special rest).text
      else if endsPath c && !special then []
      else (Path.ofText false special cs).text
    | [] => if special then ['/'] else []
  String.ofList path

def ofWeb? (scheme : String) (defaultPort : Nat) (cs : List Char) : Option Url := do
  let (host, port, rest) ← authority? true (cs.dropWhile (isSlash true))
  some ⟨scheme, host, port.filter (· ≠ defaultPort), pathAfterAuthority true rest⟩

/-- A path without a slash at its start, up to the query. -/
def opaquePath (cs : List Char) : String :=
  String.ofList (Host.escapeControls (cs.takeWhile (!endsPath ·)))

def ofOther? (scheme : String) (cs : List Char) : Option Url := do
  match cs with
  | '/' :: '/' :: cs =>
    let (host, port, rest) ← authority? false cs
    some ⟨scheme, host, port, pathAfterAuthority false rest⟩
  | '/' :: _ => some ⟨scheme, none, none, pathAfterAuthority false cs⟩
  | cs => some ⟨scheme, none, none, opaquePath cs⟩

/-! ### Local files -/

/-- The text after a slash, if it starts with one. -/
def dropSlash? (cs : List Char) : Option (List Char) :=
  match cs.dropWhile isIgnored with
  | c :: rest => if isSlash true c then some rest else none
  | [] => none

/-- A local file without a host. -/
def ofFilePath (cs : List Char) : Url :=
  ⟨"file", none, none, String.ofList (Path.ofText true true cs).fileText⟩

/-- A local file on a host, which a drive letter makes forget. -/
def ofFileHost (host : Host) (cs : List Char) : Url :=
  let path := Path.ofText true true ((dropSlash? cs).getD cs)
  ⟨"file", if path.onDrive then none else some host, none, String.ofList path.fileText⟩

/-- A local file has a host only after two slashes, and neither `localhost` nor a drive letter is
one. Tabs and line breaks are still in the text. -/
def ofFile? (cs : List Char) : Option Url :=
  match dropSlash? cs with
  | none => some (ofFilePath cs)
  | some cs =>
    match dropSlash? cs with
    | none => some (ofFilePath cs)
    | some cs =>
      let host := cs.takeWhile fun c => !endsAuthority true c
      let rest := cs.drop host.length
      let name := dropIgnored host
      if isDrive name then some (ofFilePath cs)
      else if name.isEmpty then some (ofFilePath rest)
      else
        (Host.parse? true name).map fun host =>
          if host = .domain "localhost" then ofFilePath rest else ofFileHost host rest

/-! ### All schemes -/

def parse? (text : String) : Option Url := do
  let (scheme, rest) ← scheme? (trim text.toList)
  match schemeKind scheme with
  | .web defaultPort => ofWeb? scheme defaultPort (dropIgnored rest)
  | .file => ofFile? rest
  | .other => ofOther? scheme (dropIgnored rest)

end Url

end ApiModel

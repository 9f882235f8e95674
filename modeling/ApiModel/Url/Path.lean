import ApiModel.Text.Percent
import ApiModel.Text.Split

/-!
# Paths of URLs

A hierarchical path is read segment by segment: `.` stays where it is and `..` goes up, but never
above a segment that looks like a drive letter. The first segment of a local file may be a drive,
which is written with a colon and leaves no room for a host.
-/

namespace ApiModel.Url

/-- Tabs and line breaks do not count anywhere in a URL. -/
def isIgnored (c : Char) : Bool := c = '\t' || c = '\n' || c = '\r'

def dropIgnored (cs : List Char) : List Char := cs.filter fun c => !isIgnored c

def isSlash (special : Bool) (c : Char) : Bool := c = '/' || (special && c = '\\')

/-- Whether query or fragment start at a character. -/
def endsPath (c : Char) : Bool := c = '?' || c = '#'

/-- Characters that a path writes as percent escapes. -/
def isEscapedInPath (c : Char) : Bool :=
  c.toNat ≤ 32 || 126 < c.toNat || ['"', '<', '>', '\x60', '#', '?', '\x7b', '\x7d'].contains c

def escapePath (cs : List Char) : List Char :=
  cs.flatMap fun c => if isEscapedInPath c then Percent.escape c else [c]

/-- Reads percent escapes of a dot as dots. -/
def plainDots : List Char → List Char
  | '%' :: '2' :: 'e' :: cs => '.' :: plainDots cs
  | '%' :: '2' :: 'E' :: cs => '.' :: plainDots cs
  | c :: cs => c :: plainDots cs
  | [] => []

def isDot (segment : List Char) : Bool := plainDots segment = ['.']

def isDoubleDot (segment : List Char) : Bool := plainDots segment = ['.', '.']

/-! ### Drives -/

/-- Whether a text starts with a drive letter: a letter with a colon or a bar, and nothing else up to
a backslash. -/
def startsWithDrive : List Char → Bool
  | c :: d :: cs => c.isAlpha && (d = ':' || d = '|') && (cs.isEmpty || cs.head? = some '\\')
  | _ => false

/-- Whether a text is a drive letter. -/
def isDrive (cs : List Char) : Bool := cs.length = 2 && startsWithDrive cs

/-- A letter and a colon at the start of a segment that goes on after a tab or a line break make a
segment of their own. -/
def splitDrive? (segment : List Char) : Option (List Char × List Char) := do
  let (letter, rest) ← Split.once? ':' segment
  let drive := dropIgnored letter ++ [':']
  let more := dropIgnored rest
  if isDrive drive && rest.head?.any isIgnored && !more.isEmpty then some (drive, more) else none

/-! ### Segments -/

/-- A path that is being read. -/
structure Path where
  /-- The segments, last first. -/
  segments : List (List Char) := []
  /-- Whether the first of them is a drive. -/
  onDrive : Bool := false

namespace Path

def push (p : Path) (segment : List Char) : Path :=
  { p with segments := escapePath segment :: p.segments }

/-- Drops the last segment, unless it looks like a drive letter. -/
def up (p : Path) : Path :=
  match p.segments with
  | last :: before => if startsWithDrive last then p else { p with segments := before }
  | [] => p

/-- Goes on to a segment. -/
def step (file : Bool) (p : Path) (segment : List Char) : Path :=
  let text := dropIgnored segment
  if isDoubleDot text then p.up
  else if isDot text then p
  else if file && p.segments.isEmpty then
    match splitDrive? segment with
    | some (drive, more) => (p.push drive).push more
    | none =>
      if isDrive text then { p.push (text.take 1 ++ [':']) with onDrive := true } else p.push text
  else p.push text

/-- The path in the text after its first slash. A dot segment at the end leaves an empty one. -/
def ofText (file special : Bool) (cs : List Char) : Path :=
  let texts :=
    Split.parts '/' ((cs.takeWhile (!endsPath ·)).map fun c => if isSlash special c then '/' else c)
  let p := texts.foldl (step file) {}
  let ending := dropIgnored (texts.getLast?.getD [])
  if isDoubleDot ending || isDot ending then p.push [] else p

def text (p : Path) : List Char := '/' :: ['/'].intercalate p.segments.reverse

/-- A path of a local file has one slash at its start. -/
def fileText (p : Path) : List Char := '/' :: p.text.dropWhile (· = '/')

end Path

end ApiModel.Url

import ApiModel.Assoc
import ApiModel.Yaml.Token

/-!
# The tree that tokens spell

A node is a scalar, a sequence, a mapping or an alias. Where a key, a value or an item is missing
stands an empty scalar. An anchor gets the number of the names that were known before it, and the
number stands for the last node that got it; an alias refers to a node by the number that its name
has where the alias stands.
-/

namespace ApiModel.Yaml

inductive Node
  | scalar (tag : Option Tag) (text : String) (plain : Bool)
  | sequence (tag : Option Tag) (items : List Node)
  | mapping (tag : Option Tag) (entries : List (Node × Node))
  | reference (number : Nat)
deriving Inhabited

/-- The document that a text holds. -/
structure Content where
  root : Node
  /-- The nodes that aliases refer to. -/
  anchored : List (Nat × Node) := []
  /-- How many scalars, aliases, and starts and ends of collections there are. -/
  size : Nat := 0

/-- What is left of the tokens, and what is known of the nodes before them. -/
structure NodeState where
  tokens : List Token
  /-- The stems of tags by their handles. -/
  stems : List (String × Tag)
  size : Nat := 0
  /-- The numbers of the anchors. -/
  numbers : List (String × Nat) := []
  /-- Where the nodes with these numbers start. -/
  starts : List (Nat × Nat) := []
  /-- The nodes with anchors by where they start. -/
  nodes : List (Nat × Node) := []

abbrev NodeReader := StateT NodeState Option

namespace NodeReader

def peek : NodeReader (Option Token) := return (← get).tokens.head?

def skip : NodeReader Unit := modify fun s => { s with tokens := s.tokens.tail }

/-- Takes a token if it comes next. -/
def accept (t : Token) : NodeReader Bool := do
  if (← peek) = some t then
    skip
    return true
  else return false

/-- Notes a scalar, an alias, or the start or end of a collection. -/
def count : NodeReader Unit := modify fun s => { s with size := s.size + 1 }

/-- Notes the start of a node and gives its anchor a number. -/
def start (anchor : Option String) : NodeReader Nat := do
  let s ← get
  match anchor with
  | none => pure ()
  | some name =>
    let number := s.numbers.length
    set { s with
      numbers := Assoc.insert name number s.numbers
      starts := Assoc.insert number s.size s.starts }
  count
  return s.size

structure Properties where
  anchor : Option String := none
  tag : Option Tag := none

/-- The tag that a handle and a suffix stand for; the empty handle adds nothing. -/
def wholeTag (handle : String) (suffix : Tag) : NodeReader Tag := do
  if handle.isEmpty then return suffix
  else
    match Assoc.get? handle (← get).stems with
    | some stem => return stem ++ suffix
    | none => failure

def properties : NodeReader Properties := do
  match ← peek with
  | some (.anchor name) =>
    skip
    match ← peek with
    | some (.tag handle suffix) =>
      skip
      return ⟨name, ← wholeTag handle suffix⟩
    | _ => return ⟨name, none⟩
  | some (.tag handle suffix) =>
    skip
    let tag ← wholeTag handle suffix
    match ← peek with
    | some (.anchor name) =>
      skip
      return ⟨name, tag⟩
    | _ => return ⟨none, tag⟩
  | _ => return {}

/-! ### Nodes -/

/-- The scalar that stands where a node is missing. -/
def missing : NodeReader Node := do
  count
  return .scalar none "" true

/-- A node, or an empty scalar if one of the tokens that may follow it comes next. -/
def unlessAt (following : List Token) (node : NodeReader Node) : NodeReader Node := do
  if (← peek).any following.contains then missing else node

/-- The value of an entry after its colon; without a colon it is missing. -/
def valueUnlessAt (following : List Token) (node : NodeReader Node) : NodeReader Node := do
  if ← accept .value then unlessAt following node else missing

/-- The tokens that may follow a key or a value in a block. -/
def blockFollowing : List Token := [.key, .value, .blockEnd]

mutual

/-- Reads a node. Block collections may start here if `block` says so, and sequences that are not
indented if `flush` does. -/
def node (fuel : Nat) (block flush : Bool) : NodeReader Node := do
  match fuel with
  | 0 => failure
  | fuel + 1 =>
    match ← peek with
    | some (.alias name) =>
      skip
      count
      match Assoc.get? name (← get).numbers with
      | some number => return .reference number
      | none => failure
    | _ =>
      let p ← properties
      let place ← start p.anchor
      let n ← content fuel block flush p
      if p.anchor.isSome then modify fun s => { s with nodes := (place, n) :: s.nodes }
      return n

/-- Reads a node after its properties. Properties alone make an empty scalar. -/
def content (fuel : Nat) (block flush : Bool) (p : Properties) : NodeReader Node := do
  match fuel with
  | 0 => failure
  | fuel + 1 =>
    match ← peek with
    | some (.scalar text plain) =>
      skip
      return .scalar p.tag text plain
    | some .flowSequenceStart =>
      skip
      return .sequence p.tag (← flowItems fuel true)
    | some .flowMappingStart =>
      skip
      return .mapping p.tag (← flowEntries fuel true)
    | some .blockEntry =>
      if flush then return .sequence p.tag (← flushItems fuel) else empty p
    | some .blockSequenceStart =>
      if block then
        skip
        return .sequence p.tag (← blockItems fuel)
      else empty p
    | some .blockMappingStart =>
      if block then
        skip
        return .mapping p.tag (← blockEntries fuel)
      else empty p
    | _ => empty p
where
  empty (p : Properties) : NodeReader Node :=
    if p.anchor.isSome || p.tag.isSome then return .scalar p.tag "" true else failure

def blockItems (fuel : Nat) : NodeReader (List Node) := do
  match fuel with
  | 0 => failure
  | fuel + 1 =>
    if ← accept .blockEntry then
      let item ← unlessAt [.blockEntry, .blockEnd] (node fuel true false)
      return item :: (← blockItems fuel)
    else if ← accept .blockEnd then
      count
      return []
    else failure

/-- Items at the indentation of the mapping around them, which ends where no item comes next. -/
def flushItems (fuel : Nat) : NodeReader (List Node) := do
  match fuel with
  | 0 => failure
  | fuel + 1 =>
    if ← accept .blockEntry then
      let item ← unlessAt (.blockEntry :: blockFollowing) (node fuel true false)
      return item :: (← flushItems fuel)
    else
      count
      return []

def blockEntries (fuel : Nat) : NodeReader (List (Node × Node)) := do
  match fuel with
  | 0 => failure
  | fuel + 1 =>
    if ← accept .key then
      let key ← unlessAt blockFollowing (node fuel true true)
      let value ← valueUnlessAt blockFollowing (node fuel true true)
      return (key, value) :: (← blockEntries fuel)
    else if ← accept .blockEnd then
      count
      return []
    else failure

/-- Items with commas between them, and maybe one after the last. -/
def flowItems (fuel : Nat) (first : Bool) : NodeReader (List Node) := do
  match fuel with
  | 0 => failure
  | fuel + 1 =>
    let separated ← if first then pure true else accept .flowEntry
    if ← accept .flowSequenceEnd then
      count
      return []
    else if !separated then failure
    else if ← accept .key then
      let item ← flowPair fuel
      return item :: (← flowItems fuel false)
    else
      let item ← node fuel false false
      return item :: (← flowItems fuel false)

/-- A mapping with one entry as an item of a flow sequence. Where its key is missing, the token in
place of it is passed over. -/
def flowPair (fuel : Nat) : NodeReader Node := do
  match fuel with
  | 0 => failure
  | fuel + 1 =>
    count
    let following : List Token := [.flowEntry, .flowSequenceEnd]
    let absent := (← peek).any (Token.value :: following).contains
    if absent then skip
    let key ← if absent then missing else node fuel false false
    let value ← valueUnlessAt following (node fuel false false)
    count
    return .mapping none [(key, value)]

/-- Entries with commas between them, and maybe one after the last. -/
def flowEntries (fuel : Nat) (first : Bool) : NodeReader (List (Node × Node)) := do
  match fuel with
  | 0 => failure
  | fuel + 1 =>
    let separated ← if first then pure true else accept .flowEntry
    if ← accept .flowMappingEnd then
      count
      return []
    else if !separated then failure
    else
      let following : List Token := [.flowEntry, .flowMappingEnd]
      let isKey ← accept .key
      let key ←
        if isKey then unlessAt (.value :: following) (node fuel false false)
        else node fuel false false
      let value ← if isKey then valueUnlessAt following (node fuel false false) else missing
      return (key, value) :: (← flowEntries fuel false)

end

end NodeReader

/-! ### Documents -/

/-- The stems that need no directive. -/
def defaultStems : List (String × Tag) := [("!", .nonSpecific), ("!!", .coreStem)]

/-- Reads the directives before a document; none may come twice. -/
def directives? (versioned : Bool) (stems : List (String × Tag)) :
    List Token → Option (List (String × Tag) × List Token)
  | .versionDirective major minor :: tokens =>
    if versioned || major ≠ 1 || (minor ≠ 1 && minor ≠ 2) then none
    else directives? true stems tokens
  | .tagDirective handle stem :: tokens =>
    if (Assoc.get? handle stems).isSome then none
    else directives? versioned (stems ++ [(handle, stem)]) tokens
  | tokens => some (stems, tokens)

/-- Whether a token belongs to the document after the current one. -/
def startsDocument : Token → Bool
  | .versionDirective _ _ | .tagDirective _ _ | .documentStart | .documentEnd => true
  | _ => false

/-- The number of recursive calls that always suffice: four for a token and two at the end. -/
def nodeFuel (tokens : List Token) : Nat := 4 * tokens.length + 4

/-- The content of a document whose directives are read. -/
def contentOf? (node : NodeReader Node) (s : NodeState) : Option Content := do
  let (root, s) ← node.run s
  if s.tokens.all (· = .documentEnd) then
    let anchored := s.starts.filterMap fun (number, place) =>
      (Assoc.get? place s.nodes).map fun n => (number, n)
    return { root, anchored, size := s.size }
  else none

/-- The one document that tokens spell; none at all is an empty scalar. -/
def Content.ofTokens? (tokens : List Token) : Option Content := do
  let node := NodeReader.node (nodeFuel tokens) true false
  match ← directives? false [] tokens with
  | (stems, .documentStart :: rest) =>
    let node := if rest.head?.all startsDocument then NodeReader.missing else node
    contentOf? node { tokens := rest, stems := stems ++ defaultStems }
  | (_, []) => if tokens.isEmpty then return ⟨.scalar none "" true, [], 1⟩ else none
  | (_, rest) =>
    if rest.length = tokens.length then
      contentOf? node { tokens, stems := defaultStems }
    else none

end ApiModel.Yaml

import ApiModel.Classification.Choice
import ApiModel.Classification.Progress

/-!
# Classification

`classify` finds the schema of a node of a document. A node is classified once: what became of it is
remembered, and while it is being classified its slot stands for it, so nodes may refer to one
another in circles. A node fails by its own form or because a node below it fails.

The definitions before `classifyWithin` take the classification of nodes below as an argument, the
`Classifier`. The recursion ends because nodes being classified are never classified again: they are the
`stack`, and there are only so many nodes.
-/

namespace ApiModel

namespace Classify

/-- How a node below is classified, under a name. -/
abbrev Classifier := String → Fragment → Classify SchemaId

section

variable (doc : Document) (visit : Classifier)

/-- Classifies what a slot stands for, under its declared name if it has one; nothing if nothing is
declared there. -/
def visitSlot (slot : Path) (fallback : String) : Classify (Option SchemaId) :=
  match doc.resolve slot with
  | .error r => reject r (Pointer.ofPath slot)
  | .ok none => pure none
  | .ok (some target) => some <$> visit (target.name.getD fallback) target.toFragment

def visitItems (name : String) : Nat → List Path → Classify (List SchemaId)
  | _, [] => pure []
  | i, slot :: slots => do
    let id ← visitSlot doc visit slot s!"{name}.{i}"
    let ids ← visitItems name (i + 1) slots
    return id.toList ++ ids

/-- Classifies the items of an array at a key. -/
def visitMembers (name : String) (f : Fragment) (key : String) : Classify (List SchemaId) :=
  visitItems doc visit s!"{name}.{key}" 0 (doc.items (f.slot key))

/-- What a property says stands beside its reference or at the target. -/
def property (key : String) (declared target : Json) (schema : SchemaId) (required : Bool) :
    Property :=
  let flag (keyword : String) : Bool := declared.flag keyword || target.flag keyword
  let own := declared.description ""
  { serializedName := key
    name := key
    description := if own = "" then target.description "" else own
    schema
    required
    readOnly := flag "readOnly"
    nullable := flag "nullable" || flag "x-nullable" || target.isNullable }

def visitProperties (name : String) (required : List String) :
    List (String × Path) → Classify (List Property)
  | [] => pure []
  | (key, slot) :: rest =>
    match doc.resolve slot with
    | .error r => reject r (Pointer.ofPath slot)
    | .ok none => visitProperties name required rest
    | .ok (some target) => do
      let id ← visit (target.name.getD s!"{name}.{key}") target.toFragment
      let declared := (doc.at? slot).getD target.value
      let more ← visitProperties name required rest
      return property key declared target.value id (required.contains key) :: more

/-! ### Objects -/

/-- The keywords of an object that each make a schema of their own, in the order in which they are
looked at. -/
inductive Section
  | properties
  | additionalProperties
  | anyOf
  | oneOf
deriving DecidableEq

def Section.key : Section → String
  | .properties => "properties"
  | .additionalProperties => "additionalProperties"
  | .anyOf => "anyOf"
  | .oneOf => "oneOf"

def Section.all : List Section := [.properties, .additionalProperties, .anyOf, .oneOf]

theorem Section.mem_all (s : Section) : s ∈ all := by cases s <;> decide

/-- The schema that a keyword makes, if it says anything. -/
def visitSection (name : String) (f : Fragment) : Section → Classify (Option Schema.Kind)
  | .properties =>
    if f.value.hasEntries "properties" then do
      let properties ← visitProperties doc visit name (f.value.strings "required")
        (doc.entries (f.slot "properties"))
      return some
        (.object properties (f.value.natural? "minProperties") (f.value.natural? "maxProperties"))
    else pure none
  | .additionalProperties =>
    match f.value.additionalProperties with
    | .closed => pure none
    | .any => do return some (.dictionary (← anySchema))
    | .schema => do
      let id ← visitSlot doc visit (f.slot "additionalProperties") s!"{name}.additionalProperties"
      return id.map .dictionary
  | .anyOf =>
    if f.value.hasItems "anyOf" then do
      return some (.anyOf (← visitMembers doc visit name f "anyOf"))
    else pure none
  | .oneOf =>
    if f.value.hasItems "oneOf" then do
      return some (.oneOf (← visitMembers doc visit name f "oneOf"))
    else pure none

def visitSections (name : String) (f : Fragment) :
    List Section → Classify (List (Section × Schema.Kind))
  | [] => pure []
  | s :: sections => do
    let kind ← visitSection doc visit name f s
    let parts ← visitSections name f sections
    return kind.toList.map (s, ·) ++ parts

/-- Takes a slot for each part of an object. -/
def addParts (name : String) : List (Section × Schema.Kind) → Classify (List SchemaId)
  | [] => pure []
  | (s, kind) :: parts => do
    let id ← addSchema (.undescribed s!"{name}.{s.key}" kind)
    let ids ← addParts name parts
    return id :: ids

/-- An object with a single part and no parents is that part; with none it is empty, which is
reported. Otherwise it has its parents and then its parts as members. -/
def assemble (name : String) (f : Fragment) :
    List SchemaId → List (Section × Schema.Kind) → Classify Schema
  | [], [] => do
    report ⟨.warning, .emptyObject, s!"The schema '{name}' declares no properties and no members",
      f.pointer⟩
    return .describedBy name f.value (.object [] none none)
  | [], [(_, kind)] => return .describedBy name f.value kind
  | parents, parts => do
    let ids ← addParts name parts
    return .describedBy name f.value (.allOf (parents ++ ids))

def buildObject (name : String) (f : Fragment) : Classify Schema :=
  if f.value.hasItems "oneOf" && f.value.hasEntries "properties" then
    reject (.ambiguousOneOf name) f.pointer
  else do
    let parents ← visitMembers doc visit name f "allOf"
    let parts ← visitSections doc visit name f Section.all
    assemble name f parents parts

def buildArray (name : String) (f : Fragment) : Classify Schema := do
  match ← visitSlot doc visit (f.slot "items") s!"{name}.items" with
  | none => reject (.missingItems name) f.pointer
  | some element =>
    return .describedBy name f.value
      (.array element (f.value.natural? "minItems") (f.value.natural? "maxItems")
        (f.value.flag "uniqueItems"))

/-- The type of the values of a choice has a slot of its own. -/
def buildChoice (name : String) (v : Json) : Classify Schema := do
  let name := v.choiceName?.getD name
  let valueType ←
    match v.choiceKind? with
    | some kind => addSchema (.undescribed s!"{name}.choiceType" kind)
    | none => anySchema
  return .describedBy name v (.choice v.choices valueType v.isSealed)

def build (name : String) (f : Fragment) : Classify Schema := do
  f.value.correction?.forM fun c => report (c.diagnostic name f.pointer)
  match f.value.form with
  | .choice => buildChoice name f.value
  | .plain kind => return .describedBy name f.value kind
  | .array => buildArray doc visit name f
  | .object => buildObject doc visit name f
  | .untyped => reject (.untyped name) f.pointer
  | .unknownType type => reject (.unknownType name type) f.pointer
  | .unknownFormat type format => reject (.unknownFormat name type format) f.pointer

end

/-! ### Nodes -/

/-- Classifies a node while the nodes of the stack are being classified. These are in the memory, so
a node that is not there is none of them. -/
def classifyWithin (doc : Document) (stack : List Path) (name : String) (f : Fragment) :
    Classify SchemaId := do
  match (← get).memo.get? f.path with
  | some (.inProgress id) | some (.done id) => return id
  | some .failed => throw (.rejectedBefore name)
  | none =>
    if _h : (doc.at? f.path).isSome ∧ f.path ∉ stack then
      inSlot f.path (build doc (classifyWithin doc (f.path :: stack)) name f)
    else throw (.rejectedBefore name)
termination_by doc.unseen stack
decreasing_by
  obtain ⟨v, hv⟩ := Option.isSome_iff_exists.mp _h.1
  exact Document.unseen_cons_lt hv _h.2

/-- Classifies a node of the document. -/
def classify (doc : Document) : Classifier := classifyWithin doc []

/-- Classifies what a slot of the document stands for. -/
def classifySlot (doc : Document) (slot : Path) (fallback : String) : Classify (Option SchemaId) :=
  visitSlot doc (classify doc) slot fallback

end Classify

end ApiModel

import ApiModel.Modeling.Requests

/-!
# The operations of a document

Paths are looked at in document order, and the methods of each in the order of `Method.all`. A path
item, and an operation, that is reached again by a reference is not looked at again. `Document.visits`
lists what there is to look at; `Draft.visit` adds an operation to the draft of the model.

An operation that is rejected leaves the groups and the servers of the draft as they are.
-/

namespace ApiModel

inductive Visit
  | operation (method : Method) (key : String) (item operation : Fragment)
  | unresolved (cause : Rejection) (source : String)

namespace Document

/-- The operations of a path item. -/
def itemVisits (doc : Document) (key : String) (item : Fragment) : List Visit :=
  Method.all.filterMap fun method =>
    match doc.resolve (item.slot method.text) with
    | .error r => some (.unresolved r item.pointer)
    | .ok none => none
    | .ok (some operation) => some (.operation method key item operation.toFragment)

/-- The operations of path items, those in `seen` left out. -/
def pathVisits (doc : Document) : List (String × Path) → List Path → List Visit
  | [], _ => []
  | (key, slot) :: rest, seen =>
    match doc.resolve slot with
    | .error r => .unresolved r (Pointer.ofPath slot) :: pathVisits doc rest seen
    | .ok none => pathVisits doc rest seen
    | .ok (some item) =>
      if item.path ∈ seen then pathVisits doc rest seen
      else doc.itemVisits key item.toFragment ++ pathVisits doc rest (item.path :: seen)

def visits (doc : Document) : List Visit := doc.pathVisits (doc.entries ["paths"]) []

end Document

/-! ### The draft -/

/-- What is known of the model while operations are added. -/
structure Draft where
  progress : Progress := {}
  servers : Servers := #[]
  groups : Groups := []

def Operation.missingDescription : String := "MISSING-OPERATION-DESCRIPTION"

namespace Classify

/-- All of an operation but its servers, and its group. -/
def buildOperation (doc : Document) (separator : Char) (groups : Groups) (method : Method)
    (key : String) (item operation : Fragment) : Classify (String × Operation) := do
  let v := operation.value
  let (identity, said) := Identity.ofOperation method key v operation.pointer separator
  said.forM report
  if (groups.find? identity.group identity.member).isSome then
    reject (.duplicateOperation identity.group identity.member) operation.pointer
  else
    let merged ← mergedParameters doc item operation
    let (parts, regular) := merged.partition fun f => f.value.isBodyPart
    let parameters ← buildParameters doc regular
    let request ←
      match ← buildRequest doc identity operation with
      | some request => pure (some request)
      | none => buildPartsRequest doc identity v parts
    return (identity.group,
      { name := identity.member
        description := v.description Operation.missingDescription
        summary := v.text? "summary"
        deprecated := v.isDeprecated
        tags := v.strings "tags"
        method
        path := Identity.effectivePath item.value v key
        parameters
        request
        extensions := v.extensions })

end Classify

namespace Draft

/-- Puts an operation with its servers into its group. -/
def place (d : Draft) (doc : Document) (item operation : Json) (group : String) (op : Operation) :
    Draft :=
  let (ids, servers, catalog) :=
    d.servers.ofOperation operation item doc.root d.progress.catalog
  { progress := { d.progress with catalog }
    servers
    groups := (d.groups.add? group { op with servers := ids }).getD d.groups }

/-- Builds an operation and adds it to the draft. -/
def addOperation (doc : Document) (separator : Char) (method : Method) (key : String)
    (item operation : Fragment) : StateM Draft (Except Rejection Unit) := fun d =>
  match Classify.buildOperation doc separator d.groups method key item operation d.progress with
  | .error r progress => (.error r, { d with progress })
  | .ok (group, op) progress =>
    (.ok (), place { d with progress } doc item.value operation.value group op)

def visit (doc : Document) (separator : Char) (seen : Memo Path Unit) :
    Visit → StateM Draft (Memo Path Unit)
  | .unresolved r source => do
    modify fun d =>
      { d with progress := (r.diagnostics source).foldl Progress.report d.progress }
    return seen
  | .operation method key item operation => do
    let (_, seen) ← seen.memoize (some operation.path)
      (addOperation doc separator method key item operation)
    return seen

/-- Adds the operations of all visits, each operation once. -/
def visitAll (doc : Document) (separator : Char) : List Visit → Memo Path Unit → StateM Draft Unit
  | [], _ => return
  | v :: visits, seen => do
    let seen ← visit doc separator seen v
    visitAll doc separator visits seen

end Draft

end ApiModel

import ApiModel.Modeling.Components
import ApiModel.Modeling.Paths
import ApiModel.Model.Basic

/-!
# A run over a document

`Document.model` makes the model of a document: the operations first, then the components. A
document that has no paths and no components, or has them in the wrong shape, has no model; all
other faults leave something out and are reported.
-/

namespace ApiModel

structure Options where
  /-- What divides an operation id into group and member. -/
  separator : Char := '_'
  /-- Whether components are classified that no operation refers to. -/
  components : Bool := true

/-- Why a document has no model. -/
inductive Failure
  | unreadable
  | rootNotMapping
  | nothingDeclared
  | pathsNotMapping
  | componentsNotMapping
deriving DecidableEq

namespace Failure

def message : Failure → String
  | .unreadable => "Parse Error: Failed to parse OpenAPI document"
  | .rootNotMapping => "Structure Error: document root is not a mapping"
  | .nothingDeclared => "Structure Error: document declares neither 'paths' nor 'components'"
  | .pathsNotMapping => "Structure Error: 'paths' is not a mapping"
  | .componentsNotMapping => "Structure Error: 'components' is not a mapping"

end Failure

/-- What comes of a run: a model or a failure, and what was reported. -/
structure Outcome where
  result : Except Failure Model
  diagnostics : List Diagnostic

namespace Document

def declares (doc : Document) (key : String) : Bool := doc.root.has key

/-- Whether a key holds something else than a mapping. -/
def isMisshapen (doc : Document) (key : String) : Bool :=
  match doc.root.get? key with
  | none | some (.obj _) => false
  | some _ => true

/-- Why nothing of a document can be looked at. -/
def failure? (doc : Document) : Option Failure :=
  if doc.root.obj?.isNone then some .rootNotMapping
  else if !(doc.declares "paths" || doc.declares "components" || doc.declares "definitions") then
    some .nothingDeclared
  else if doc.isMisshapen "paths" then some .pathsNotMapping
  else none

/-- The draft with all operations. -/
def draft (doc : Document) (options : Options) : Draft :=
  (Draft.visitAll doc options.separator doc.visits {} {}).2

/-- The draft with all that the options ask for. -/
def fullDraft (doc : Document) (options : Options) : Draft :=
  let d := doc.draft options
  if options.components && !doc.isMisshapen "components" then
    match Classify.classifyComponents doc d.progress with
    | .ok _ progress | .error _ progress => { d with progress }
  else d

def modelOf (doc : Document) (d : Draft) : Model :=
  { info := Info.ofRoot doc.root
    extensions := doc.root.extensions
    catalog := d.progress.catalog
    servers := d.servers
    groups := d.groups }

def model (doc : Document) (options : Options) : Outcome :=
  match doc.failure? with
  | some failure => ⟨.error failure, []⟩
  | none =>
    let d := doc.fullDraft options
    let said := d.progress.diagnostics.toList
    if options.components && doc.isMisshapen "components" then
      ⟨.error .componentsNotMapping, said⟩
    else ⟨.ok (doc.modelOf d), said⟩

end Document

end ApiModel

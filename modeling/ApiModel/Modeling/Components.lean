import ApiModel.Classification.Basic

/-!
# The components of a document

Components are classified even if no operation refers to them: first the schemas that headers,
parameters, request bodies and responses carry, then the schemas by name.
-/

namespace ApiModel.Classify

/-- The sections whose entries carry schemas. -/
def carriers : List String := ["headers", "parameters", "requestBodies", "responses"]

/-- The schemas that a component carries: its own, and that of each of its contents. -/
def carriedSlots (doc : Document) (f : Fragment) : List Path :=
  (if f.value.has "schema" then [f.slot "schema"] else []) ++
    (doc.entries (f.slot "content")).map fun (_, media) => media ++ ["schema"]

/-- Classifies what slots stand for and goes on whatever comes of it. -/
def classifyAll (doc : Document) : List (String × Path) → Classify Unit
  | [] => pure ()
  | (name, slot) :: rest => fun p =>
    match classifySlot doc slot name p with
    | .ok _ p => classifyAll doc rest p
    | .error _ p => classifyAll doc rest p

/-- Classifies what components carry. -/
def classifyCarried (doc : Document) : List (String × Path) → Classify Unit
  | [] => pure ()
  | (name, slot) :: rest => do
    match doc.resolve slot with
    | .error r => modify fun p => (r.diagnostics (Pointer.ofPath slot)).foldl Progress.report p
    | .ok none => pure ()
    | .ok (some carrier) =>
      classifyAll doc ((carriedSlots doc carrier.toFragment).map fun slot => (name, slot))
    classifyCarried doc rest

def classifyComponents (doc : Document) : Classify Unit := do
  classifyCarried doc (carriers.flatMap fun key => doc.entries ["components", key])
  classifyAll doc (doc.entries ["components", "schemas"])
  classifyAll doc (doc.entries ["definitions"])

end ApiModel.Classify

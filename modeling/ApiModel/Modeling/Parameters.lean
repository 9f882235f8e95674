import ApiModel.Classification.Basic
import ApiModel.Operation

/-!
# Reading parameters

The parameters of an operation are those of its path item and its own; of two with the same name and
place the later counts, at the place of the earlier (`mergedParameters`). Each is built by itself:
one that is rejected is left out and does not touch the others.
-/

namespace ApiModel

/-! ### How a value is written -/

/-- The style of a location. -/
def Location.defaultStyle : Location → Style
  | .query | .cookie => .form
  | .path | .header => .simple
  | .body => .json

/-- The style that a collection format stands for. -/
def Style.ofCollectionFormat? (location : Location) : String → Option Style
  | "ssv" => some .spaceDelimited
  | "pipes" => some .pipeDelimited
  | "multi" => some .form
  | "csv" => if location = .query then some .form else none
  | _ => none

namespace Json

/-- The declared style, else that of the collection format, else that of the location. -/
def style (v : Json) (location : Location) : Style :=
  (((v.text? "style").bind Style.parse?).or
    ((v.text? "collectionFormat").bind (Style.ofCollectionFormat? location))).getD
    location.defaultStyle

/-- Whether each value stands by itself: as declared, else by the collection format, else in form
style. -/
def explode (v : Json) (style : Style) : Bool :=
  match v.flag? "explode" with
  | some b => b
  | none =>
    match v.text? "collectionFormat" with
    | some format => format = "multi"
    | none => style = .form

def supplier (v : Json) : Supplier :=
  if v.text? "x-ms-parameter-location" = some "client" then .client else .method

/-- The name and the place by which parameters override one another. -/
def parameterKey (v : Json) : String × String := ((v.text? "name").getD "", (v.text? "in").getD "")

/-- Whether a parameter describes the request body. -/
def isBodyPart (v : Json) : Bool :=
  v.text? "in" = some "body" || v.text? "in" = some "formData"

end Json

def Parameter.missingDescription : String := "MISSING-PARAMETER-DESCRIPTION"

namespace Classify

/-- The path of the schema of a parameter: `schema`, else that of its first content, else the
parameter itself if it has a type. -/
def parameterSlot? (doc : Document) (f : Fragment) : Option Path :=
  if f.value.has "schema" then some (f.slot "schema")
  else
    match doc.entries (f.slot "content") with
    | (_, media) :: _ => some (media ++ ["schema"])
    | [] => if f.value.has "type" then some f.path else none

/-- Name and location, if the name is not empty and the location is known. -/
def nameAndLocation? (v : Json) : Option (String × Location) := do
  let name ← (v.text? "name").filter (· ≠ "")
  let location ← (v.text? "in").bind Location.parse?
  return (name, location)

theorem nameAndLocation?_eq_some_iff {v : Json} {name : String} {location : Location} :
    nameAndLocation? v = some (name, location) ↔ v.text? "name" = some name ∧ name ≠ "" ∧
      (v.text? "in").bind Location.parse? = some location := by
  unfold nameAndLocation?
  simp only [Option.bind_eq_bind, Option.bind_eq_some_iff, Option.filter_eq_some_iff,
    decide_eq_true_eq]
  constructor
  · rintro ⟨n, ⟨hn, hne⟩, l, hl, hpure⟩
    cases hpure
    exact ⟨hn, hne, hl⟩
  · rintro ⟨hn, hne, hl⟩
    exact ⟨name, ⟨hn, hne⟩, location, hl, rfl⟩

def parameterOf (v : Json) (name : String) (location : Location) (schema : SchemaId) : Parameter :=
  let style := v.style location
  { name
    description := v.description Parameter.missingDescription
    schema
    location
    style
    explode := v.explode style
    required := location = .path || v.flag "required"
    supplier := v.supplier
    extensions := v.extensions }

def buildParameter (doc : Document) (f : Fragment) : Classify Parameter :=
  match nameAndLocation? f.value with
  | none => reject (.invalidParameter f.pointer) f.pointer
  | some (name, location) => do
    let schema ←
      match parameterSlot? doc f with
      | some slot => classifySlot doc slot name
      | none => pure none
    match schema with
    | none => reject (.missingSchema name) f.pointer
    | some schema => return parameterOf f.value name location schema

/-- Runs a step; one that rejects its node comes to nothing. -/
def attempt {α : Type} (x : Classify α) : Classify (Option α) := fun p =>
  match x p with
  | .ok a p => .ok (some a) p
  | .error _ p => .ok none p

/-- The parameters that slots stand for; a slot that stands for none is reported. -/
def resolveParameters (doc : Document) : List Path → Classify (List Fragment)
  | [] => pure []
  | slot :: slots => do
    let found ←
      match doc.resolve slot with
      | .error r => attempt (reject r (Pointer.ofPath slot))
      | .ok target => pure (target.map (·.toFragment))
    let rest ← resolveParameters doc slots
    return found.toList ++ rest

/-- Of parameters with one key the last counts, at the place of the first. -/
def mergeParameters (fs : List Fragment) : List Fragment :=
  (Assoc.ofList (fs.map fun f => (f.value.parameterKey, f))).map (·.2)

/-- The merged parameters of a path item and an operation. -/
def mergedParameters (doc : Document) (item operation : Fragment) : Classify (List Fragment) := do
  let slots := doc.items (item.slot "parameters") ++ doc.items (operation.slot "parameters")
  return mergeParameters (← resolveParameters doc slots)

/-- Builds parameters and leaves out those that are rejected. -/
def buildParameters (doc : Document) : List Fragment → Classify (List Parameter)
  | [] => pure []
  | f :: fs => do
    let p ← attempt (buildParameter doc f)
    let ps ← buildParameters doc fs
    return p.toList ++ ps

end Classify

end ApiModel

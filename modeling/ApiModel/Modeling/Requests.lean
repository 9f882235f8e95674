import ApiModel.Identity
import ApiModel.Modeling.Parameters

/-!
# Reading requests

The request of an operation is its request body, which has one content type; or else it is made of
those of its parameters that describe a body: the first that is the body as a whole, else all form
fields together. A body whose schema is a stream is sent as bytes, any other is a parameter.
-/

namespace ApiModel

def Request.missingDescription : String := "MISSING-BODY-DESCRIPTION"

/-- The name that schemas made for an operation start with. -/
def Identity.joined (i : Identity) : String := i.group ++ i.member

namespace Classify

/-- Whether a schema that was classified is a stream. -/
def isStream (id : SchemaId) : Classify Bool := return (← get).catalog.isStream id

/-- The name that a node gives to the body parameter. -/
def bodyName (v : Option Json) : String := (v.bind (·.str?)).getD "body"

/-! ### Request bodies -/

def bodyParameter (operation body : Json) (schema : SchemaId) : Parameter :=
  let key := "x-ms-requestBody-name"
  { name := bodyName ((operation.get? key).or (body.get? key))
    description := body.description Request.missingDescription
    schema
    location := .body
    style := .json
    explode := false
    required := body.flag "required"
    supplier := .client
    extensions := body.extensions }

/-- The request of a request body; nothing if there is none or it has no content. -/
def buildRequest (doc : Document) (identity : Identity) (operation : Fragment) :
    Classify (Option Request) :=
  match doc.resolve (operation.slot "requestBody") with
  | .error r => reject r operation.pointer
  | .ok none => return none
  | .ok (some body) =>
    match doc.entries (body.slot "content") with
    | [] => return none
    | [(mediaType, media)] => do
      let fallback := identity.joined ++ "Body"
      match ← classifySlot doc (media ++ ["schema"]) fallback with
      | none => reject (.missingSchema fallback) (Pointer.ofPath media)
      | some schema =>
        if ← isStream schema then return some ⟨mediaType, .stream schema⟩
        else return some ⟨mediaType, .parameter (bodyParameter operation.value body.value schema)⟩
    | _ => reject (.multipleContent identity.joined) body.pointer

/-! ### Bodies made of parameters -/

/-- The media type that an operation consumes, else that its document does. -/
def consumedType? (doc : Document) (operation : Json) : Option String :=
  (operation.strings "consumes" ++ doc.root.strings "consumes").head?

def buildBodyRequest (doc : Document) (operation : Json) (body : Fragment) : Classify Request := do
  let p ← buildParameter doc body
  let mediaType := (consumedType? doc operation).getD "application/json"
  if ← isStream p.schema then return ⟨mediaType, .stream p.schema⟩
  else return ⟨mediaType, .parameter p⟩

/-- Builds all fields of a form, or none. -/
def buildFields (doc : Document) : List Fragment → Classify (List Parameter)
  | [] => pure []
  | f :: fs => do
    let p ← buildParameter doc f
    let ps ← buildFields doc fs
    return p :: ps

def fieldProperty (p : Parameter) : Property :=
  { serializedName := p.name
    name := p.name
    description := p.description
    schema := p.schema
    required := p.required
    readOnly := false
    nullable := false }

def formParameter (operation : Json) (fields : List Parameter) (schema : SchemaId) : Parameter :=
  { name := bodyName (operation.get? "x-ms-requestBody-name")
    description := Request.missingDescription
    schema
    location := .body
    style := .form
    explode := false
    required := fields.any (·.required)
    supplier := .client
    extensions := [] }

/-- A single field that is a stream is the request; other fields are gathered in an object. -/
def buildFormRequest (doc : Document) (identity : Identity) (operation : Json)
    (parts : List Fragment) : Classify Request := do
  let fields ← buildFields doc parts
  let catalog := (← get).catalog
  let streamed := fields.any fun p => catalog.isStream p.schema
  let mediaType := (consumedType? doc operation).getD
    (if streamed then "multipart/form-data" else "application/x-www-form-urlencoded")
  let gathered : Classify Request := do
    let schema ← addSchema (.undescribed (identity.joined ++ "Body")
      (.object (fields.map fieldProperty) none none))
    return ⟨mediaType, .parameter (formParameter operation fields schema)⟩
  match fields with
  | [field] => if streamed then return ⟨mediaType, .stream field.schema⟩ else gathered
  | _ => gathered

/-- The request that parameters make; nothing if none of them describes a body. -/
def buildPartsRequest (doc : Document) (identity : Identity) (operation : Json) :
    List Fragment → Classify (Option Request)
  | [] => return none
  | part :: parts =>
    match (part :: parts).find? fun f => f.value.text? "in" = some "body" with
    | some body => some <$> buildBodyRequest doc operation body
    | none => some <$> buildFormRequest doc identity operation (part :: parts)

end Classify

end ApiModel

import ApiModel.Json.Keyword

/-!
# Metadata

What a node says about itself whatever it describes: a description, an example, extensions, links
and hints.
-/

namespace ApiModel

/-- A link to further documentation. -/
structure ExternalDocs where
  url : String
  description : Option String
  extensions : List (String × Json)

/-- How a schema is written as XML. -/
structure Xml where
  name : Option String
  namespaceUri : Option String
  namespacePrefix : Option String
  asAttribute : Option Bool
  wrapped : Option Bool

namespace Json

/-- The first of `description`, `title` and `summary` that is text and not empty. -/
def description (v : Json) (default : String) : String :=
  ((["description", "title", "summary"].filterMap v.text?).find? (· ≠ "")).getD default

def isDeprecated (v : Json) : Bool := v.flag "deprecated"

/-- The example, or the first of several; an example that is named stands under `value`. -/
def example? (v : Json) : Option Json :=
  match v.get? "example" with
  | some value => some value
  | none =>
    match v.get? "examples" with
    | some (.arr items) => items.head?
    | some (.obj fields) => fields.head?.map fun (_, entry) => (entry.get? "value").getD entry
    | _ => none

/-! ### Records that are taken whole or not at all -/

/-- Text or nothing; fails for a value that is neither text nor null. -/
def optionalText? : Option Json → Option (Option String)
  | none | some .null => some none
  | some (.str s) => some (some s)
  | some _ => none

/-- A truth value or nothing; fails for any other value than null. -/
def optionalBool? : Option Json → Option (Option Bool)
  | none | some .null => some none
  | some (.bool b) => some (some b)
  | some _ => none

/-- The extensions of a record, in the order of their keys. -/
def sortedExtensions (v : Json) : List (String × Json) :=
  v.extensions.mergeSort fun a b => a.1 ≤ b.1

/-- Needs a `url`; keys other than extensions are dropped. -/
def toExternalDocs? (v : Json) : Option ExternalDocs := do
  let _ ← v.obj?
  let url ← v.text? "url"
  let description ← optionalText? (v.get? "description")
  return ⟨url, description, v.sortedExtensions⟩

def toXmlWith? (name uri short asAttribute wrapped : Option Json) : Option Xml := do
  let name ← optionalText? name
  let uri ← optionalText? uri
  let short ← optionalText? short
  let asAttribute ← optionalBool? asAttribute
  let wrapped ← optionalBool? wrapped
  return ⟨name, uri, short, asAttribute, wrapped⟩

/-- An object, or the five values in their order. -/
def toXml? : Json → Option Xml
  | .arr [name, uri, short, asAttribute, wrapped] =>
    toXmlWith? (some name) (some uri) (some short) (some asAttribute) (some wrapped)
  | .obj fields =>
    let v := Json.obj fields
    toXmlWith? (v.get? "name") (v.get? "namespace") (v.get? "prefix") (v.get? "attribute")
      (v.get? "wrapped")
  | _ => none

def externalDocs? (v : Json) : Option ExternalDocs := (v.get? "externalDocs").bind (·.toExternalDocs?)

def xml? (v : Json) : Option Xml := (v.get? "xml").bind (·.toXml?)

end Json

end ApiModel

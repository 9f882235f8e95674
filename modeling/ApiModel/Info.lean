import ApiModel.Json.Printer
import ApiModel.Metadata

/-!
# The head of a document

Title and version are always there; a version that is a number is kept by its text.
-/

namespace ApiModel

structure Contact where
  name : Option String
  url : Option String
  email : Option String
  extensions : List (String × Json)

structure License where
  name : String
  identifier : Option String
  url : Option String
  extensions : List (String × Json)

structure Info where
  title : String
  description : Option String
  termsOfService : Option String
  contact : Option Contact
  license : Option License
  version : String

namespace Json

def toContact? (v : Json) : Option Contact := do
  let _ ← v.obj?
  let name ← optionalText? (v.get? "name")
  let url ← optionalText? (v.get? "url")
  let email ← optionalText? (v.get? "email")
  return ⟨name, url, email, v.sortedExtensions⟩

/-- Needs a `name`. -/
def toLicense? (v : Json) : Option License := do
  let _ ← v.obj?
  let name ← v.text? "name"
  let identifier ← optionalText? (v.get? "identifier")
  let url ← optionalText? (v.get? "url")
  return ⟨name, identifier, url, v.sortedExtensions⟩

end Json

def Info.missingTitle : String := "MISSING-TITLE"

/-- Reads `info` of a document. -/
def Info.ofRoot (root : Json) : Info :=
  let source := (root.get? "info").getD .null
  let version :=
    match source.get? "version" with
    | some (.str version) => version
    | some (.num version) => version.render Json.numberFormat
    | _ => ""
  { title := (source.text? "title").getD missingTitle
    description := source.text? "description"
    termsOfService := source.text? "termsOfService"
    contact := (source.get? "contact").bind (·.toContact?)
    license := (source.get? "license").bind (·.toLicense?)
    version }

end ApiModel

import ApiModel.Modeling.Run
import ApiModel.Yaml.Value

/-!
# Models of text

Documents are written in YAML, of which JSON is a part.
-/

namespace ApiModel

/-- The document that a text holds. -/
def Document.ofText? (text : String) : Option Document := (Yaml.value? text).map Document.mk

/-- The model of the document that a text holds. -/
def modelText (options : Options) (text : String) : Outcome :=
  match Document.ofText? text with
  | some doc => doc.model options
  | none => ⟨.error .unreadable, []⟩

end ApiModel

import ApiModel.Diagnostic
import ApiModel.Format

/-!
# Rejections

Why a schema, a parameter or an operation is left out of the model. Each cause has one code under
which it is reported and one message.
-/

namespace ApiModel

inductive Rejection
  | unresolvedReference (reference : String)
  | untyped (name : String)
  | unknownType (name type : String)
  | unknownFormat (name : String) (type : JsonType) (format : Format)
  | missingItems (name : String)
  | ambiguousOneOf (name : String)
  | missingSchema (name : String)
  | invalidParameter (pointer : String)
  | multipleContent (name : String)
  | duplicateOperation (group member : String)
  | rejectedBefore (name : String)
deriving DecidableEq

namespace Rejection

def message : Rejection → String
  | .unresolvedReference reference => s!"unresolved reference '{reference}'"
  | .untyped name => s!"schema '{name}' has no type and none can be inferred"
  | .unknownType name type => s!"schema '{name}' has unrecognized type '{type}'"
  | .unknownFormat name type format =>
    s!"{type.text} schema '{name}' with unknown format '{format.text}' is not valid"
  | .missingItems name => s!"array schema '{name}' is missing schema for items"
  | .ambiguousOneOf name => s!"schema '{name}' combines 'oneOf' with 'properties'"
  | .missingSchema name => s!"'{name}' is missing its schema"
  | .invalidParameter pointer => s!"parameter at '{pointer}' has no valid 'name' or 'in'"
  | .multipleContent name => s!"request body for '{name}' declares multiple content types"
  | .duplicateOperation group member =>
    s!"operation '{member}' already exists in group '{group}'"
  | .rejectedBefore name => s!"schema '{name}' was rejected earlier"

/-- The code under which a cause is reported; what was rejected before is not reported again. -/
def code? : Rejection → Option Code
  | .unresolvedReference _ => some .unresolvedReference
  | .untyped _ => some .missingType
  | .unknownType _ _ => some .unknownType
  | .unknownFormat _ _ _ => some .unknownFormat
  | .missingItems _ => some .missingItems
  | .ambiguousOneOf _ => some .ambiguousOneOf
  | .missingSchema _ => some .missingSchema
  | .invalidParameter _ => some .invalidParameter
  | .multipleContent _ => some .multipleContentTypes
  | .duplicateOperation _ _ => some .duplicateOperation
  | .rejectedBefore _ => none

theorem code?_eq_duplicate_iff {r : Rejection} :
    r.code? = some .duplicateOperation ↔ ∃ group member, r = .duplicateOperation group member := by
  cases r <;> simp [code?]

/-- The errors that report a cause at a place: one, or none for what was reported before. -/
def diagnostics (r : Rejection) (source : String) : List Diagnostic :=
  r.code?.toList.map fun code => ⟨.error, code, r.message, source⟩

end Rejection

end ApiModel

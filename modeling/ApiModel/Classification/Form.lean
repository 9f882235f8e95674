import ApiModel.Diagnostic
import ApiModel.Schema.Basic
import ApiModel.Typing

/-!
# The form of a schema

What a node of a document is by its own keywords, before anything below it is looked at: `Json.form`.
A node without a type is taken for an object if its keywords hint at one; this and the spelling
`file` are corrections that are reported (`Json.correction?`).
-/

namespace ApiModel

/-- What a type and a format make together. -/
inductive Shape
  | plain (kind : Schema.Kind)
  | array
  | object
  | unsupported

namespace Json

/-- The bounds of a number. A bound that is excluded may be written as a number of its own, which
then takes the place of the bound. -/
def range (v : Json) : Range :=
  let bound (key exclusiveKey : String) : Option Binary64 × Bool :=
    match v.get? exclusiveKey with
    | some (.num n) => (some n.toBinary64, true)
    | _ => (v.float? key, v.flag exclusiveKey)
  let (minimum, exclusiveMinimum) := bound "minimum" "exclusiveMinimum"
  let (maximum, exclusiveMaximum) := bound "maximum" "exclusiveMaximum"
  { minimum, maximum, exclusiveMinimum, exclusiveMaximum, multipleOf := v.float? "multipleOf" }

def textLimits (v : Json) : TextLimits :=
  ⟨v.natural? "minLength", v.natural? "maxLength", v.text? "pattern"⟩

/-- The table of types and formats. The format of an object does not matter. -/
def shape (v : Json) : JsonType → Format → Shape
  | .array, .unset => .array
  | .boolean, .unset => .plain .boolean
  | .integer, .unset | .integer, .int32 => .plain (.integer 32 v.range)
  | .integer, .int64 => .plain (.integer 64 v.range)
  | .integer, .unixTime => .plain .unixTime
  | .number, .unset | .number, .float => .plain (.number 32 v.range)
  | .number, .double => .plain (.number 64 v.range)
  | .number, .decimal => .plain (.number 128 v.range)
  | .string, .unset => .plain (.string v.textLimits)
  | .string, .byte | .string, .certificate => .plain (.bytes .base64)
  | .string, .base64Url => .plain (.bytes .base64Url)
  | .string, .binary => .plain .stream
  | .string, .char => .plain .char
  | .string, .date => .plain .date
  | .string, .dateTime => .plain (.dateTime .rfc3339)
  | .string, .dateTimeRfc1123 => .plain (.dateTime .rfc1123)
  | .string, .duration => .plain .duration
  | .string, .uuid => .plain .uuid
  | .string, .uri => .plain (.uri v.textLimits)
  | .string, .password => .plain (.credential v.textLimits)
  | .string, .odataQuery => .plain .odataQuery
  | .object, _ => .object
  | _, _ => .unsupported

end Json

/-- What makes a node without a type an object. -/
inductive ObjectHint
  | properties
  | additionalProperties
  | members
deriving DecidableEq

def ObjectHint.phrase : ObjectHint → String
  | .properties => "declared properties"
  | .additionalProperties => "additionalProperties"
  | .members => "'allOf'/'anyOf'/'oneOf'"

/-- What is put right in a schema when it is read. -/
inductive Correction
  | fileSpelling
  | inferredObject (hint : ObjectHint)
deriving DecidableEq

namespace Correction

def code : Correction → Code
  | .fileSpelling => .fileType
  | .inferredObject _ => .missingType

def message (name : String) : Correction → String
  | .fileSpelling => "The schema type 'file' is not a OAI standard type. " ++
      "This has been auto-corrected to 'type:string' and 'format:binary'"
  | .inferredObject hint =>
    s!"The schema '{name}' with an undefined type and {hint.phrase} is a bit ambiguous. " ++
      "This has been auto-corrected to 'type:object'"

def diagnostic (c : Correction) (name source : String) : Diagnostic :=
  ⟨.warning, c.code, c.message name, source⟩

/-- What is put right has one of two codes. -/
theorem code_ne_of_ne {c : Correction} {code : Code}
    (h : code ≠ .missingType ∧ code ≠ .fileType) : c.code ≠ code := by
  cases c with
  | fileSpelling => exact h.2.symm
  | inferredObject hint => exact h.1.symm

end Correction

inductive Form
  | choice
  | plain (kind : Schema.Kind)
  | array
  | object
  | untyped
  | unknownType (type : String)
  | unknownFormat (type : JsonType) (format : Format)

namespace Json

def isChoice (v : Json) : Bool := v.has "enum" || v.has "x-ms-enum"

def objectHint? (v : Json) : Option ObjectHint :=
  if v.has "properties" then some .properties
  else if v.additionalProperties ≠ .closed then some .additionalProperties
  else if v.has "allOf" || v.has "anyOf" || v.has "oneOf" then some .members
  else none

def formOfType (v : Json) (type : JsonType) : Form :=
  match v.shape type v.typing.format with
  | .plain kind => .plain kind
  | .array => .array
  | .object => .object
  | .unsupported => .unknownFormat type v.typing.format

def form (v : Json) : Form :=
  if v.isChoice then .choice
  else
    match v.typing.typeText with
    | none => if v.objectHint?.isSome then .object else .untyped
    | some text =>
      match JsonType.parse? text with
      | none => .unknownType text
      | some type => v.formOfType type

/-- The correction of a schema that is not a choice; there is at most one, because a file has a
type. -/
def correction? (v : Json) : Option Correction :=
  if v.isChoice then none
  else if v.typing.fileSpelling then some .fileSpelling
  else if v.typing.typeText.isNone then v.objectHint?.map .inferredObject
  else none

theorem form_of_isChoice {v : Json} (h : v.isChoice) : v.form = .choice := by rw [form, if_pos h]

theorem plain_of_shape {v : Json} {type : JsonType} {format : Format} {kind : Schema.Kind}
    (h : v.shape type format = .plain kind) : kind.references = [] ∧ kind ≠ .any := by
  cases type <;> cases format <;> simp only [shape, reduceCtorEq, Shape.plain.injEq] at h <;>
    subst h <;> simp [Schema.Kind.references]

theorem plain_of_form {v : Json} {kind : Schema.Kind} (h : v.form = .plain kind) :
    kind.references = [] ∧ kind ≠ .any := by
  unfold form at h
  split at h
  · cases h
  · split at h
    · split at h <;> cases h
    · split at h
      · cases h
      · unfold formOfType at h
        split at h <;> cases h
        exact plain_of_shape ‹_›

/-- Nothing is put right in a node that has no type and none can be found for. -/
theorem correction?_of_untyped {v : Json} (h : v.form = .untyped) : v.correction? = none := by
  unfold form at h
  unfold correction?
  split at h
  · cases h
  · rename_i hchoice
    rw [if_neg hchoice]
    split at h
    · rename_i htype
      split at h
      · cases h
      · rename_i hhint
        have hfile : v.typing.fileSpelling = false := by
          unfold typing at htype ⊢
          dsimp only at htype ⊢
          split at htype
          · cases htype
          · rename_i hspelled
            rw [if_neg hspelled]
        rw [if_neg (by simp [hfile]), htype]
        simpa using hhint
    · split at h
      · cases h
      · unfold formOfType at h
        split at h <;> cases h

end Json

end ApiModel

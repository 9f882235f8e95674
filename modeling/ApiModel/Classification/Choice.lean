import ApiModel.Classification.Form
import ApiModel.Json.Printer

/-!
# Choices

A choice lists the values of `enum`, or those of `x-ms-enum`, which may have names and descriptions
of their own. The type of the values is the declared one, else that of the first value that has one.
-/

namespace ApiModel.Json

def namedChoice? (entry : Json) : Option Choice :=
  (entry.get? "value").map fun value =>
    ⟨(entry.text? "name").getD value.label, value, entry.text? "description"⟩

def plainChoice? (value : Json) : Option Choice :=
  if value.isNull then none else some ⟨value.label, value, none⟩

def choices (v : Json) : List Choice :=
  match (v.get? "x-ms-enum").bind (·.list? "values") with
  | some entries => entries.filterMap namedChoice?
  | none => ((v.list? "enum").getD []).filterMap plainChoice?

theorem choices_of_not_isChoice {v : Json} (h : v.isChoice = false) : v.choices = [] := by
  simp only [isChoice, has, Bool.or_eq_false_iff, Option.isSome_eq_false_iff,
    Option.isNone_iff_eq_none] at h
  simp [choices, list?, h]

/-- The name that a choice declares for itself. -/
def choiceName? (v : Json) : Option String := (v.get? "x-ms-enum").bind (·.text? "name")

/-- Whether no other values are allowed. -/
def isSealed (v : Json) : Bool :=
  !((v.get? "x-ms-enum").map (·.flag "modelAsString")).getD false

def choiceType? (v : Json) : Option JsonType :=
  match v.typing.typeText with
  | some text => JsonType.parse? text
  | none => v.choices.findSome? fun c => c.value.literalType?

/-- The kind of the values, if it is a plain one. -/
def choiceKind? (v : Json) : Option Schema.Kind :=
  match v.choiceType?.map fun type => v.shape type v.typing.format with
  | some (.plain kind) => some kind
  | _ => none

theorem plain_of_choiceKind? {v : Json} {kind : Schema.Kind} (h : v.choiceKind? = some kind) :
    kind.references = [] ∧ kind ≠ .any := by
  unfold choiceKind? at h
  split at h
  · rename_i hk
    cases h
    obtain ⟨type, -, hs⟩ := Option.map_eq_some_iff.mp hk
    exact plain_of_shape hs
  · cases h

/-- A file is a stream of bytes, whatever its values are. -/
theorem choiceKind?_of_file {v : Json} (h : v.text? "format" = some "file") :
    v.choiceKind? = some .stream := by
  have htyping : v.typing = ⟨some "string", some "binary", v.isNullable, true⟩ := by simp [typing, h]
  have htype : v.choiceType? = some .string := by rw [choiceType?, htyping]; rfl
  rw [choiceKind?, htype, htyping]
  rfl

end ApiModel.Json

import ApiModel.Format
import ApiModel.Json.Keyword

/-!
# The type of a schema

Dialects spell types in several ways: a file is a type or a format of its own or binary text, null is
one of several types or a flag. `Json.typing` reads them all; the schema itself is left as it is.
-/

namespace ApiModel

/-- What a schema says about the type of its values. -/
structure Typing where
  typeText : Option String
  formatText : Option String
  nullable : Bool
  /-- The type or the format was spelled `file`. -/
  fileSpelling : Bool

/-- What a schema says about keys that it does not list. -/
inductive AdditionalProperties
  | closed
  | any
  | schema
deriving DecidableEq

namespace Json

/-- The type that a list of names stands for, null left out: none, the only one, or all of them
joined by bars, which is no known type. -/
def typeOfNames (names : List String) : Option String :=
  match names.filter (· ≠ "null") with
  | [] => none
  | [name] => some name
  | names => some ("|".intercalate names)

/-- The type as it is spelled. -/
def declaredType? (v : Json) : Option String :=
  match v.get? "type" with
  | some (.str name) => some name
  | some (.arr _) => typeOfNames (v.strings "type")
  | _ => none

theorem declaredType?_of_str {v : Json} {type : String} (h : v.get? "type" = some (.str type)) :
    v.declaredType? = some type := by
  simp [declaredType?, h]

def isNullable (v : Json) : Bool :=
  v.flag "nullable" || v.flag "x-nullable" || (v.strings "type").contains "null"

theorem isNullable_iff {v : Json} :
    v.isNullable ↔ v.flag "nullable" ∨ v.flag "x-nullable" ∨ .str "null" ∈ (v.list? "type").getD [] := by
  rw [← mem_strings_iff]
  simp [isNullable, or_assoc]

/-- The type after all dialects are brought to one: a file is text in binary format. -/
def typing (v : Json) : Typing :=
  let type := v.declaredType?
  let format := v.text? "format"
  if type = some "file" || format = some "file" then
    ⟨some "string", some "binary", v.isNullable, true⟩
  else ⟨type, format, v.isNullable, false⟩

theorem typing_of_ne_file {v : Json} (htype : v.declaredType? ≠ some "file")
    (hformat : v.text? "format" ≠ some "file") :
    v.typing = ⟨v.declaredType?, v.text? "format", v.isNullable, false⟩ := by
  simp [typing, htype, hformat]

/-- The type of a literal value; null has none. -/
def literalType? : Json → Option JsonType
  | .str _ => some .string
  | .bool _ => some .boolean
  | .num (.int _) => some .integer
  | .num (.float _) => some .number
  | .arr _ => some .array
  | .obj _ => some .object
  | .null => none

theorem literalType?_eq_none_iff {v : Json} : v.literalType? = none ↔ v.isNull = true := by
  cases v with
  | num n => cases n <;> simp [literalType?, isNull]
  | _ => simp [literalType?, isNull]

/-- Keys that are not listed are refused if the keyword is missing, null or `false`, have any value
if it is `true` or empty, and else follow a schema. -/
def additionalProperties (v : Json) : AdditionalProperties :=
  match v.get? "additionalProperties" with
  | none | some .null | some (.bool false) => .closed
  | some (.bool true) | some (.obj []) => .any
  | some _ => .schema

end Json

def Typing.format (t : Typing) : Format := Format.parse (t.formatText.getD "")

end ApiModel

import ApiModel.Classification.Choice
import ApiModel.Document

/-!
# Spellings of a type

A `Respelling` says in other words what a schema says about its type: `object` names the type that was
inferred, `file` says text in binary format, `nullable` makes null one of two types. It writes to some
of the keywords `type`, `format` and `nullable`. What becomes of a schema depends on these through its
form, its nullability and the kind of its choice only, and a respelling leaves them as they are
(`alike_apply`); the correction that is reported may become needless (`correction?_apply`).
-/

namespace ApiModel

namespace Json

variable {v w u : Json} {key k : String}

/-- An object with a value at a key; a new key comes last. -/
def set (v : Json) (key : String) (u : Json) : Json :=
  match v with
  | .obj fields => .obj (Assoc.insert key u fields)
  | v => v

/-- An object without a key. -/
def erase (v : Json) (key : String) : Json :=
  match v with
  | .obj fields => .obj (fields.filter fun p => p.1 ≠ key)
  | v => v

theorem get?_set (hv : v.obj?.isSome) : (v.set key u).get? k = if key = k then some u else v.get? k := by
  cases v with
  | obj fields => exact Assoc.get?_insert key k u fields
  | _ => cases hv

theorem get?_erase : (v.erase key).get? k = if key = k then none else v.get? k := by
  cases v with
  | obj fields => exact Assoc.get?_filter_ne key k fields
  | _ => simp [erase, get?, obj?]

theorem isSome_obj?_set (hv : v.obj?.isSome) : (v.set key u).obj?.isSome := by
  cases v with
  | obj fields => rfl
  | _ => cases hv

theorem isSome_obj?_erase (hv : v.obj?.isSome) : (v.erase key).obj?.isSome := by
  cases v with
  | obj fields => rfl
  | _ => cases hv

theorem extensions_set (hk : isExtensionKey key = false) : (v.set key u).extensions = v.extensions := by
  cases v with
  | obj fields =>
    simp only [set, extensions, obj?, Option.getD_some]
    induction fields with
    | nil => simp [Assoc.insert, hk]
    | cons p fields ih =>
      obtain ⟨a, w⟩ := p
      unfold Assoc.insert
      split
      · rename_i ha
        simp [ha, hk]
      · simp only [List.filter_cons, ih]
  | _ => rfl

theorem extensions_erase (hk : isExtensionKey key = false) :
    (v.erase key).extensions = v.extensions := by
  cases v with
  | obj fields =>
    simp only [erase, extensions, obj?, Option.getD_some, List.filter_filter]
    refine List.filter_congr fun p _ => ?_
    by_cases hp : p.1 = key
    · simp [hp, hk]
    · simp [hp]
  | _ => rfl

/-- The keywords that say the type. -/
def typeKeys : List String := ["type", "format", "nullable"]

/-- The values have the same entries but for the keywords that say the type. -/
structure Agrees (v w : Json) : Prop where
  get? : ∀ key ∉ typeKeys, w.get? key = v.get? key
  extensions : w.extensions = v.extensions

namespace Agrees

theorem refl (v : Json) : v.Agrees v := ⟨fun _ _ => rfl, rfl⟩

variable (h : v.Agrees w)

include h

theorem reference? : w.reference? = v.reference? := by
  simp only [Json.reference?, h.get? "$ref" (by decide)]

theorem has (key : String) (hk : key ∉ typeKeys) : w.has key = v.has key := by
  simp only [Json.has, h.get? key hk]

theorem text? (key : String) (hk : key ∉ typeKeys) : w.text? key = v.text? key := by
  simp only [Json.text?, h.get? key hk]

theorem flag (key : String) (hk : key ∉ typeKeys) : w.flag key = v.flag key := by
  simp only [Json.flag, Json.flag?, h.get? key hk]

theorem natural? (key : String) (hk : key ∉ typeKeys) : w.natural? key = v.natural? key := by
  simp only [Json.natural?, h.get? key hk]

theorem list? (key : String) (hk : key ∉ typeKeys) : w.list? key = v.list? key := by
  simp only [Json.list?, h.get? key hk]

theorem hasItems (key : String) (hk : key ∉ typeKeys) : w.hasItems key = v.hasItems key := by
  simp only [Json.hasItems, h.list? key hk]

theorem strings (key : String) (hk : key ∉ typeKeys) : w.strings key = v.strings key := by
  simp only [Json.strings, h.list? key hk]

theorem hasEntries (key : String) (hk : key ∉ typeKeys) : w.hasEntries key = v.hasEntries key := by
  simp only [Json.hasEntries, Json.fields?, h.get? key hk]

theorem description (default : String) : w.description default = v.description default := by
  simp only [Json.description, List.filterMap_cons, List.filterMap_nil,
    h.text? "description" (by decide), h.text? "title" (by decide),
    h.text? "summary" (by decide)]

theorem describedBy (name : String) (kind : Schema.Kind) :
    Schema.describedBy name w kind = Schema.describedBy name v kind := by
  simp only [Schema.describedBy, h.description, h.extensions, Json.isDeprecated, Json.example?,
    Json.externalDocs?, Json.xml?, h.text? "title" (by decide),
    h.flag "deprecated" (by decide), h.get? "example" (by decide),
    h.get? "examples" (by decide), h.get? "default" (by decide), h.get? "externalDocs" (by decide),
    h.get? "xml" (by decide)]

theorem additionalProperties : w.additionalProperties = v.additionalProperties := by
  simp only [Json.additionalProperties, h.get? "additionalProperties" (by decide)]

theorem isChoice : w.isChoice = v.isChoice := by
  simp only [Json.isChoice, h.has "enum" (by decide),
    h.has "x-ms-enum" (by decide)]

theorem choices : w.choices = v.choices := by
  simp only [Json.choices, h.get? "x-ms-enum" (by decide), h.list? "enum" (by decide)]

theorem choiceName? : w.choiceName? = v.choiceName? := by
  simp only [Json.choiceName?, h.get? "x-ms-enum" (by decide)]

theorem isSealed : w.isSealed = v.isSealed := by
  simp only [Json.isSealed, h.get? "x-ms-enum" (by decide)]

theorem objectHint? : w.objectHint? = v.objectHint? := by
  simp only [Json.objectHint?, h.additionalProperties, h.has "properties" (by decide),
    h.has "allOf" (by decide), h.has "anyOf" (by decide),
    h.has "oneOf" (by decide)]

theorem shape (type : JsonType) (format : Format) : w.shape type format = v.shape type format := by
  have hrange : w.range = v.range := by
    simp only [Json.range, Json.float?, h.flag "exclusiveMinimum" (by decide),
      h.flag "exclusiveMaximum" (by decide), h.get? "exclusiveMinimum" (by decide),
      h.get? "exclusiveMaximum" (by decide), h.get? "minimum" (by decide),
      h.get? "maximum" (by decide), h.get? "multipleOf" (by decide)]
  have hlimits : w.textLimits = v.textLimits := by
    simp only [Json.textLimits, h.natural? "minLength" (by decide),
      h.natural? "maxLength" (by decide), h.text? "pattern" (by decide)]
  unfold Json.shape
  rw [hrange, hlimits]

end Agrees

/-- The same becomes of both values. -/
structure Alike (v w : Json) : Prop extends v.Agrees w where
  isNullable : w.isNullable = v.isNullable
  form : w.form = v.form
  choiceKind? : w.choiceKind? = v.choiceKind?

theorem Alike.refl (v : Json) : v.Alike v := ⟨.refl v, rfl, rfl, rfl⟩

/-- Form and choice depend on the type and the format alone. -/
theorem Agrees.alike (h : v.Agrees w) (hn : w.isNullable = v.isNullable)
    (htype : w.typing.typeText = v.typing.typeText)
    (hformat : w.typing.formatText = v.typing.formatText) : v.Alike w := by
  refine ⟨h, hn, ?_, ?_⟩
  · simp only [Json.form, Json.formOfType, h.isChoice, h.objectHint?, h.shape, htype, Typing.format,
      hformat]
  · simp only [Json.choiceKind?, Json.choiceType?, h.choices, h.shape, htype, Typing.format, hformat]

end Json

/-! ### Respellings -/

inductive Respelling
  /-- An object that is known by its keywords is called one. -/
  | object
  /-- A file is called text in binary format. -/
  | file
  /-- Null becomes one of two types. -/
  | nullable (type : String)

namespace Respelling

variable {r : Respelling} {v : Json}

/-- The keywords that are written or removed. -/
def keys : Respelling → List String
  | object => ["type"]
  | file => ["type", "format"]
  | nullable _ => ["type", "nullable"]

def apply : Respelling → Json → Json
  | object, v => v.set "type" (.str "object")
  | file, v => (v.set "type" (.str "string")).set "format" (.str "binary")
  | nullable type, v => (v.set "type" (.arr [.str type, .str "null"])).erase "nullable"

/-- What a schema has to say for a respelling to be about it. -/
def Applies : Respelling → Json → Prop
  | object, v => v.get? "type" = none ∧ v.isChoice = false ∧ v.text? "format" ≠ some "file" ∧
      v.objectHint?.isSome
  | file, v => v.declaredType? = some "file" ∨ v.text? "format" = some "file"
  | nullable type, v => v.get? "type" = some (.str type) ∧ type ≠ "null" ∧ v.flag "nullable"

/-- Null is not lost with a list of types: where the list that `file` writes over names null, a flag
does too. -/
def KeepsNull : Respelling → Json → Prop
  | file, v => "null" ∈ v.strings "type" → v.flag "nullable" ∨ v.flag "x-nullable"
  | _, _ => True

/-- The code of the correction that becomes needless. -/
def excuse? : Respelling → Option Code
  | object => some .missingType
  | file => some .fileType
  | nullable _ => none

/-- Whether a diagnostic is the warning about the node at `x` that becomes needless. -/
def excuses (r : Respelling) (x : Path) (d : Diagnostic) : Bool :=
  d.level = .warning && r.excuse? = some d.code && d.source = Pointer.ofPath x

theorem keys_subset (r : Respelling) : r.keys ⊆ Json.typeKeys := by
  cases r <;> simp [keys, Json.typeKeys]

theorem isSome_obj?_of_applies (h : r.Applies v) : v.obj?.isSome := by
  cases r with
  | object =>
    obtain ⟨-, -, -, hint⟩ := h
    cases v with
    | obj fields => rfl
    | _ => simp [Json.objectHint?, Json.has, Json.get?, Json.obj?, Json.additionalProperties] at hint
  | file =>
    have hfile : v.declaredType? = some "file" ∨ v.text? "format" = some "file" := h
    cases v with
    | obj fields => rfl
    | _ => simp [Json.declaredType?, Json.text?, Json.get?, Json.obj?] at hfile
  | nullable type => exact Json.isSome_obj?_of_get? h.1

theorem isSome_obj?_apply (h : r.Applies v) : (r.apply v).obj?.isSome := by
  have hv := isSome_obj?_of_applies h
  cases r with
  | object => exact Json.isSome_obj?_set hv
  | file => exact Json.isSome_obj?_set (Json.isSome_obj?_set hv)
  | nullable type => exact Json.isSome_obj?_erase (Json.isSome_obj?_set hv)

theorem get?_apply (h : r.Applies v) {key : String} (hk : key ∉ r.keys) :
    (r.apply v).get? key = v.get? key := by
  have hv := isSome_obj?_of_applies h
  cases r with
  | object =>
    have hne : "type" ≠ key := by simpa [keys, eq_comm] using hk
    simp [apply, Json.get?_set hv, hne]
  | file =>
    have hne : "type" ≠ key ∧ "format" ≠ key := by simpa [keys, eq_comm] using hk
    simp [apply, Json.get?_set (Json.isSome_obj?_set hv), Json.get?_set hv, hne]
  | nullable type =>
    have hne : "type" ≠ key ∧ "nullable" ≠ key := by simpa [keys, eq_comm] using hk
    simp [apply, Json.get?_erase, Json.get?_set hv, hne]

theorem extensions_apply (r : Respelling) (v : Json) : (r.apply v).extensions = v.extensions := by
  have hset : ∀ v u, (Json.set v "type" u).extensions = v.extensions :=
    fun _ _ => Json.extensions_set (by decide)
  cases r with
  | object => exact hset _ _
  | file => exact (Json.extensions_set (by decide)).trans (hset _ _)
  | nullable type => exact (Json.extensions_erase (by decide)).trans (hset _ _)

theorem agrees_apply (h : r.Applies v) : v.Agrees (r.apply v) :=
  ⟨fun _ hk => get?_apply h fun hm => hk (r.keys_subset hm), r.extensions_apply v⟩

section

open Json

variable {type : String}

theorem typing_of_applies_object (h : object.Applies v) :
    v.typing = ⟨none, v.text? "format", v.isNullable, false⟩ := by
  obtain ⟨htype, -, hformat, -⟩ := h
  have hnone : v.declaredType? = none := by simp [declaredType?, htype]
  rw [typing_of_ne_file (by simp [hnone]) hformat, hnone]

theorem isNullable_apply_object (h : object.Applies v) :
    (object.apply v).isNullable = v.isNullable := by
  have hv := isSome_obj?_of_applies h
  simp [apply, isNullable, flag, flag?, strings, list?, get?_set hv, h.1, str?, arr?]

theorem typing_apply_object (h : object.Applies v) :
    (object.apply v).typing = ⟨some "object", v.text? "format", v.isNullable, false⟩ := by
  have hv := isSome_obj?_of_applies h
  have htype : (object.apply v).declaredType? = some "object" :=
    declaredType?_of_str (by simp [apply, get?_set hv])
  have hformat : (object.apply v).text? "format" = v.text? "format" := by
    simp [apply, text?, get?_set hv]
  rw [typing_of_ne_file (by simp [htype]) (hformat ▸ h.2.2.1), htype, hformat,
    isNullable_apply_object h]

theorem typing_of_applies_file (h : file.Applies v) :
    v.typing = ⟨some "string", some "binary", v.isNullable, true⟩ := by
  have hfile : (v.declaredType? = some "file" || v.text? "format" = some "file") = true := by
    simp only [Bool.or_eq_true, decide_eq_true_eq]
    exact h
  unfold typing
  dsimp only
  rw [if_pos hfile]

theorem isNullable_apply_file (h : file.Applies v) (hn : file.KeepsNull v) :
    (file.apply v).isNullable = v.isNullable := by
  have hv := isSome_obj?_of_applies h
  have hafter : (file.apply v).isNullable = (v.flag "nullable" || v.flag "x-nullable") := by
    simp [apply, isNullable, flag, flag?, strings, list?, get?_set hv,
      get?_set (isSome_obj?_set hv), arr?]
  rw [hafter, isNullable]
  by_cases hnull : "null" ∈ v.strings "type"
  · have hflag : (v.flag "nullable" || v.flag "x-nullable") = true := by simpa using hn hnull
    rw [hflag, Bool.true_or]
  · simp [hnull]

theorem typing_apply_file (h : file.Applies v) (hn : file.KeepsNull v) :
    (file.apply v).typing = ⟨some "string", some "binary", v.isNullable, false⟩ := by
  have hv := isSome_obj?_of_applies h
  have hv' : (v.set "type" (.str "string")).obj?.isSome := isSome_obj?_set hv
  have htype : (file.apply v).declaredType? = some "string" :=
    declaredType?_of_str (by simp [apply, get?_set hv, get?_set hv'])
  have hformat : (file.apply v).text? "format" = some "binary" := by
    simp [apply, text?, get?_set hv', str?]
  rw [typing_of_ne_file (by simp [htype]) (by simp [hformat]), htype, hformat,
    isNullable_apply_file h hn]

theorem isNullable_apply_nullable (h : (nullable type).Applies v) :
    ((nullable type).apply v).isNullable = v.isNullable := by
  have hv := isSome_obj?_of_applies h
  have hbefore : v.isNullable = true := by simp [isNullable, h.2.2]
  rw [hbefore]
  simp [apply, isNullable, strings, list?, get?_set hv, get?_erase, arr?, str?]

theorem typing_apply_nullable (h : (nullable type).Applies v) :
    ((nullable type).apply v).typing = v.typing := by
  have hv := isSome_obj?_of_applies h
  have htype : ((nullable type).apply v).declaredType? = v.declaredType? := by
    rw [declaredType?_of_str h.1]
    simp [apply, declaredType?, strings, list?, get?_set hv, get?_erase, arr?, str?, typeOfNames,
      h.2.1]
  have hformat : ((nullable type).apply v).text? "format" = v.text? "format" := by
    simp [apply, text?, get?_set hv, get?_erase]
  simp only [typing, htype, hformat, isNullable_apply_nullable h]

theorem alike_apply_object (h : object.Applies v) : v.Alike (object.apply v) := by
  -- The type is inferred before and declared after, so `Agrees.alike` does not apply.
  have hagrees := agrees_apply h
  have hchoice : (object.apply v).isChoice = false := hagrees.isChoice.trans h.2.1
  have hparse : JsonType.parse? "object" = some .object := JsonType.parse?_text .object
  refine ⟨hagrees, isNullable_apply_object h, ?_, ?_⟩
  · simp [form, formOfType, h.2.1, hchoice, typing_of_applies_object h, typing_apply_object h, hparse,
      shape, h.2.2.2]
  · simp [choiceKind?, choiceType?, typing_of_applies_object h, typing_apply_object h, hparse, shape,
      choices_of_not_isChoice h.2.1]

/-- The same becomes of a schema when its type is said in other words. -/
theorem alike_apply (h : r.Applies v) (hn : r.KeepsNull v) : v.Alike (r.apply v) := by
  cases r with
  | object => exact alike_apply_object h
  | file =>
    have htyping := typing_of_applies_file h
    have htyping' := typing_apply_file h hn
    exact (agrees_apply h).alike (isNullable_apply_file h hn) (by rw [htyping, htyping'])
      (by rw [htyping, htyping'])
  | nullable type =>
    have htyping := typing_apply_nullable h
    exact (agrees_apply h).alike (isNullable_apply_nullable h) (by rw [htyping]) (by rw [htyping])

/-- What is put right in the schema is the same, less what the respelling puts right. -/
theorem correction?_apply (h : r.Applies v) (hn : r.KeepsNull v) :
    (r.apply v).correction? = v.correction?.filter fun c => r.excuse? ≠ some c.code := by
  have hagrees := agrees_apply h
  cases r with
  | object =>
    obtain ⟨hint, hhint⟩ := Option.isSome_iff_exists.mp h.2.2.2
    have hbefore : v.correction? = some (.inferredObject hint) := by
      simp [correction?, h.2.1, typing_of_applies_object h, hhint]
    have hafter : (object.apply v).correction? = none := by
      simp [correction?, typing_apply_object h]
    rw [hbefore, hafter]
    rfl
  | file =>
    have hafter : (file.apply v).correction? = none := by
      simp [correction?, typing_apply_file h hn]
    rw [hafter]
    by_cases hchoice : v.isChoice
    · simp [correction?, hchoice]
    · have hbefore : v.correction? = some .fileSpelling := by
        simp [correction?, hchoice, typing_of_applies_file h]
      rw [hbefore]
      rfl
  | nullable type =>
    have hall : v.correction?.filter (fun c => (nullable type).excuse? ≠ some c.code) =
        v.correction? := by
      cases v.correction? <;> rfl
    rw [hall]
    simp only [correction?, hagrees.isChoice, hagrees.objectHint?, typing_apply_nullable h]

end

end Respelling

end ApiModel

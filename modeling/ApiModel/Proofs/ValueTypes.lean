import ApiModel.Proofs.Respelling
import ApiModel.Proofs.Steps

/-!
# The types of choice values

A choice that says no type has that of the first of its values that is not null, if this type and the
format of the choice make a plain schema, and else any value. The other values are not looked at: one
of the same JSON type fits, a whole number also where the first is any number, and no other does
(`infersKind_of_untyped`).
-/

namespace ApiModel

/-- Whether the values of a kind are texts. -/
def Schema.Kind.isTextual : Schema.Kind → Bool
  | .string _ | .credential _ | .uri _ | .uuid | .duration | .dateTime _ | .date | .char | .bytes _
  | .odataQuery | .stream => true
  | _ => false

/-- Whether the JSON value is written as a value of the kind: a whole number is one without a fraction and
an exponent. -/
def Schema.Kind.admits : Schema.Kind → Json → Bool
  | .boolean, .bool _ => true
  | .integer _ _, .num (.int _) | .unixTime, .num (.int _) => true
  | .number _ _, .num _ => true
  | kind, .str _ => kind.isTextual
  | _, _ => false

/-- Values of a textual kind are texts. -/
theorem Schema.Kind.admits_of_isTextual {kind : Schema.Kind} (h : kind.isTextual) (w : Json) :
    kind.admits w = w.str?.isSome := by
  cases kind <;> cases h <;> cases w <;> rfl

namespace Json

variable {v w : Json}

/-- The values of a choice: those of `x-ms-enum`, if it has any list of them, else those of `enum` that are
not null. -/
def keptValues (v : Json) : List Json :=
  match (v.get? "x-ms-enum").bind (·.list? "values") with
  | some entries => entries.filterMap (·.get? "value")
  | none => ((v.list? "enum").getD []).filter fun w => !w.isNull

/-- The first value of a choice that is not null. -/
def firstValue? (v : Json) : Option Json := v.keptValues.find? fun w => !w.isNull

/-- The value has the JSON type of the first, or is a whole number where this is any number. -/
def GoesWith (w first : Json) : Prop :=
  w.literalType? = first.literalType? ∨
    w.literalType? = some .integer ∧ first.literalType? = some .number

/-- The kind of the values of a choice comes from the first of them that is not null, and fits those that
go with it. -/
structure InfersKind (v : Json) (kind : Schema.Kind) : Prop where
  any : kind = .any → ∀ first type, v.firstValue? = some first → first.literalType? = some type →
    ∀ k, v.shape type v.typing.format ≠ .plain k
  fits : kind ≠ .any → ∃ first, v.firstValue? = some first ∧
    ∀ w ∈ v.keptValues, (kind.admits w ↔ w.GoesWith first)

theorem map_value_choices (v : Json) : v.choices.map (·.value) = v.keptValues := by
  unfold choices keptValues
  cases (v.get? "x-ms-enum").bind (·.list? "values") with
  | some entries =>
    dsimp only
    rw [List.map_filterMap]
    refine List.filterMap_congr fun entry _ => ?_
    simp [namedChoice?, Function.comp_def]
  | none =>
    dsimp only
    rw [List.map_filterMap, ← List.filterMap_eq_filter]
    refine List.filterMap_congr fun w _ => ?_
    cases hw : w.isNull <;> simp [plainChoice?, hw, Option.guard]

theorem findSome?_literalType? (ws : List Json) :
    ws.findSome? literalType? = (ws.find? fun w => !w.isNull).bind literalType? := by
  induction ws with
  | nil => rfl
  | cons w ws ih =>
    cases hw : w.literalType? with
    | none =>
      have hnull : w.isNull = true := literalType?_eq_none_iff.mp hw
      rw [List.findSome?_cons_of_isNone (by simp [hw]), List.find?_cons_of_neg (by simp [hnull]), ih]
    | some type =>
      have hnull : w.isNull ≠ true := fun h => by rw [literalType?_eq_none_iff.mpr h] at hw; cases hw
      rw [List.findSome?_cons_of_isSome (by simp [hw]), List.find?_cons_of_pos (by simpa using hnull)]
      rfl

theorem choiceType?_of_untyped (h : v.typing.typeText = none) :
    v.choiceType? = v.firstValue?.bind literalType? := by
  rw [choiceType?, h, firstValue?, ← findSome?_literalType?, ← map_value_choices, List.findSome?_map]
  rfl

end Json

/-- The kinds that a JSON type makes with its formats, if they are plain. -/
inductive JsonType.Makes : JsonType → Schema.Kind → Prop
  | boolean : Makes .boolean .boolean
  | integer (precision : Nat) (range : Range) : Makes .integer (.integer precision range)
  | unixTime : Makes .integer .unixTime
  | number (precision : Nat) (range : Range) : Makes .number (.number precision range)
  | text {kind : Schema.Kind} (h : kind.isTextual) : Makes .string kind

namespace JsonType.Makes

variable {v : Json} {type : JsonType} {format : Format} {kind : Schema.Kind}

theorem of_shape (h : v.shape type format = .plain kind) : type.Makes kind := by
  cases type <;> cases format <;> simp only [Json.shape, reduceCtorEq, Shape.plain.injEq] at h <;>
    subst h <;> constructor <;> rfl

/-- The kind admits the values of the type, and whole numbers if the type is that of any number. -/
theorem admits_iff (h : type.Makes kind) (w : Json) :
    kind.admits w ↔ w.literalType? = some type ∨ w.literalType? = some .integer ∧ type = .number := by
  cases h with
  | boolean | integer | unixTime | number =>
    cases w with
    | num n => cases n <;> simp [Schema.Kind.admits, Json.literalType?]
    | _ => simp [Schema.Kind.admits, Json.literalType?, Schema.Kind.isTextual]
  | text htext =>
    rw [Schema.Kind.admits_of_isTextual htext]
    cases w with
    | num n => cases n <;> simp [Json.str?, Json.literalType?]
    | _ => simp [Json.str?, Json.literalType?]

end JsonType.Makes

namespace Json

variable {v : Json} {kind : Schema.Kind}

theorem infersKind_of_untyped (h : v.typing.typeText = none) :
    v.InfersKind (v.choiceKind?.getD .any) := by
  have htype := choiceType?_of_untyped h
  cases hk : v.choiceKind? with
  | none =>
    refine ⟨fun _ first type hfirst hliteral k hplain => ?_, fun hne => absurd rfl hne⟩
    rw [hfirst, Option.bind_some, hliteral] at htype
    rw [choiceKind?, htype, Option.map_some, hplain] at hk
    cases hk
  | some kind =>
    refine ⟨fun hany => absurd hany (Json.plain_of_choiceKind? hk).2, fun _ => ?_⟩
    unfold choiceKind? at hk
    split at hk
    · rename_i shape hshape
      cases hk
      obtain ⟨type, htype', hplain⟩ := Option.map_eq_some_iff.mp hshape
      rw [htype'] at htype
      obtain ⟨first, hfirst, hliteral⟩ := Option.bind_eq_some_iff.mp htype.symm
      refine ⟨first, hfirst, fun w _ => ?_⟩
      rw [Option.getD_some, (JsonType.Makes.of_shape hplain).admits_iff, GoesWith, hliteral,
        Option.some.injEq]
    · cases hk

end Json

/-! ### Choices in the catalog -/

namespace Progress

/-- The schema at the id is a choice among the values that the node keeps, and these are of the kind. -/
def IsChoiceOf (p : Progress) (v : Json) (id : SchemaId) (kind : Schema.Kind) : Prop :=
  ∃ s choices valueType isSealed t, p.catalog.get? id = some s ∧
    s.kind = .choice choices valueType isSealed ∧ choices.map (·.value) = v.keptValues ∧
    p.catalog.get? valueType = some t ∧ t.kind = kind

end Progress

namespace Document

theorem isChoiceOf_of_done (doc : Document) (steps : List (Step doc)) (f : doc.Node) (id : SchemaId)
    (hchoice : f.value.isChoice)
    (hd : (doc.after steps).progress.memo.get? f.path = some (.done id)) :
    (doc.after steps).progress.IsChoiceOf f.value id (f.value.choiceKind?.getD .any) := by
  have hcoherent := (doc.sound_after steps).coherent
  have hform := Json.form_of_isChoice hchoice
  obtain ⟨s, hs, hdepicts⟩ := hcoherent.depicts f.toFragment id f.holds hd
  cases hdepicts with
  | plain h | array h | object h => cases hform.symm.trans h
  | @choice name valueType _ hvalue =>
    have hvalues := f.value.map_value_choices
    unfold Directory.ShowsValueType at hvalue
    cases hk : f.value.choiceKind? with
    | some kind =>
      rw [hk] at hvalue
      exact ⟨_, _, valueType, _, _, hs, rfl, hvalues, hvalue, rfl⟩
    | none =>
      rw [hk] at hvalue
      exact ⟨_, _, valueType, _, _, hs, rfl, hvalues, hcoherent.any valueType hvalue, rfl⟩

/-- After any steps, the values of a choice without a type are of the kind that the first of them makes,
which fits those that go with the first. Only a file is of a kind that does not come from its values. -/
theorem kind_of_untyped_choice (doc : Document) (steps : List (Step doc)) (f : doc.Node) (id : SchemaId)
    (hchoice : f.value.isChoice) (htype : f.value.declaredType? = none)
    (hd : (doc.after steps).progress.memo.get? f.path = some (.done id)) :
    ∃ kind, (doc.after steps).progress.IsChoiceOf f.value id kind ∧
      (f.value.text? "format" = some "file" → kind = .stream) ∧
      (f.value.text? "format" ≠ some "file" → f.value.InfersKind kind) := by
  refine ⟨_, doc.isChoiceOf_of_done steps f id hchoice hd, fun hfile => ?_, fun hother => ?_⟩
  · rw [Json.choiceKind?_of_file hfile, Option.getD_some]
  · refine Json.infersKind_of_untyped ?_
    rw [Json.typing_of_ne_file (by simp [htype]) hother, htype]

/-- A choice with a name for each of its values: null, numbers of both forms, and a text. -/
def measure : Json := .obj [
  ("format", .str "double"),
  ("x-ms-enum", .obj [("values", .arr [
    .obj [("name", .str "None"), ("value", .null)],
    .obj [("name", .str "Half"), ("value", .num (.float ⟨false, 4503599627370496, -53⟩))],
    .obj [("name", .str "Nameless")],
    .obj [("name", .str "Two"), ("value", .num (.int 2))],
    .obj [("name", .str "Many"), ("value", .str "many")]])])]

def withMeasure : Document where
  root := .obj [("components", .obj [("schemas", .obj [("Measure", measure)])])]

def measureNode : withMeasure.Node where
  path := ["components", "schemas", "Measure"]
  value := measure
  holds := by rfl

theorem kind_of_untyped_choice_withMeasure :
    measure.isChoice ∧ measure.declaredType? = none ∧
      (withMeasure.after [.classify "Measure" measureNode]).progress.memo.get? measureNode.path =
        some (.done ⟨0⟩) ∧
      ∃ kind, (withMeasure.after [.classify "Measure" measureNode]).progress.IsChoiceOf measure ⟨0⟩ kind ∧
        measure.InfersKind kind := by
  have hchoice : measure.isChoice := by rfl
  have htype : measure.declaredType? = none := by rfl
  have hd : (withMeasure.after [.classify "Measure" measureNode]).progress.memo.get? measureNode.path =
      some (.done ⟨0⟩) := by decide +kernel
  obtain ⟨kind, hkind, -, hinfers⟩ := kind_of_untyped_choice withMeasure [.classify "Measure" measureNode]
    measureNode ⟨0⟩ hchoice htype hd
  exact ⟨hchoice, htype, hd, kind, hkind, hinfers (by decide)⟩

/-- A choice between a number and a text. -/
def mixture : Json := .obj [("enum", .arr [.num (.int 1), .str "a"])]

def withMixture : Document where
  root := .obj [("components", .obj [("schemas", .obj [("E", mixture)])])]

def mixtureNode : withMixture.Node where
  path := ["components", "schemas", "E"]
  value := mixture
  holds := by rfl

/-- The values are whole numbers by the first of them, and the second is none. -/
theorem value_of_other_kind :
    mixture.isChoice ∧ mixture.get? "type" = none ∧ mixture.get? "format" = none ∧
      (withMixture.after [.classify "E" mixtureNode]).progress.memo.get? mixtureNode.path =
        some (.done ⟨0⟩) ∧
      ∃ kind, (withMixture.after [.classify "E" mixtureNode]).progress.IsChoiceOf mixture ⟨0⟩ kind ∧
        kind ≠ .any ∧ ∃ w ∈ mixture.keptValues, kind.admits w = false := by
  have hchoice : mixture.isChoice := by rfl
  have hd : (withMixture.after [.classify "E" mixtureNode]).progress.memo.get? mixtureNode.path =
      some (.done ⟨0⟩) := by decide +kernel
  have hkind := isChoiceOf_of_done withMixture [.classify "E" mixtureNode] mixtureNode ⟨0⟩ hchoice hd
  have hinteger : mixture.choiceKind? = some (.integer 32 mixture.range) := by rfl
  have hkept : mixture.keptValues = [.num (.int 1), .str "a"] := by rfl
  rw [show mixtureNode.value = mixture from rfl, hinteger] at hkind
  refine ⟨hchoice, by rfl, by rfl, hd, _, hkind, by simp, .str "a", ?_, rfl⟩
  rw [hkept]
  exact List.mem_cons_of_mem _ (List.mem_singleton_self _)

end Document

end ApiModel

import ApiModel.Proofs.Attempts
import ApiModel.Proofs.Preserved

/-!
# What runs preserve

An `I` that classifying slots preserves is preserved by all of modeling, if the object that gathers the
fields of a form and the schemas of server variables do not break it; that a duplicate is reported has to
be looked at only where one is. So an `I` that holds at the start of a run holds at its end, and after
any steps.
-/

namespace ApiModel

namespace Classify

variable {doc : Document} {f : Fragment} {α : Type} {I : Progress → Prop}

theorem after_attempt (x : Classify α) (p : Progress) : after (attempt x) p = after x p := by
  unfold after attempt
  cases x p <;> rfl

theorem Preserves.attempt {x : Classify α} (hx : Preserves I x) : Preserves I (attempt x) :=
  fun p hp => after_attempt x p ▸ hx p hp

theorem preserves_forM {β : Type} {bs : List β} {body : β → Classify Unit}
    (h : ∀ b ∈ bs, Preserves I (body b)) : Preserves I (bs.forM body) := by
  induction bs with
  | nil => exact .pure _
  | cons b bs ih =>
    obtain ⟨hb, hbs⟩ := List.forall_mem_cons.mp h
    exact hb.bind fun _ => ih hbs

/-- What is needed of `I` for reading the parameters and the request body of an operation. -/
structure PreservingReads (doc : Document) (I : Progress → Prop) : Prop where
  report : ∀ p d, d.code.isOfOperation → I p → I (p.report d)
  classifySlot : ∀ slot fallback, Preserves I (classifySlot doc slot fallback)

/-- What is needed of `I` for all of modeling, duplicates aside. -/
structure PreservingSlots (doc : Document) (I : Progress → Prop) : Prop
    extends PreservingReads doc I where
  /-- The fields of a form are gathered in an object. -/
  gather : ∀ (identity : Identity) fs fields p p', I p → buildFields doc fs p = .ok fields p' → I p' →
    I { p' with catalog := p'.catalog.add (.undescribed (identity.joined ++ "Body")
      (.object (fields.map fieldProperty) none none)) }
  declare : ∀ p name v, I p → I { p with catalog := (ServerVariable.declare name v p.catalog).2 }

theorem IgnoresSchemas.preservingSlots (hI : IgnoresSchemas I)
    (hreport : ∀ p d, d.code.isOfOperation → I p → I (p.report d))
    (hslot : ∀ slot fallback, Preserves I (classifySlot doc slot fallback)) : PreservingSlots doc I where
  report := hreport
  classifySlot := hslot
  gather _ _ _ _ p' _ _ h := hI p' _ rfl rfl rfl h
  declare p _ _ h := hI p _ rfl rfl rfl h

theorem preserves_isStream (id : SchemaId) : Preserves I (isStream id) := .of_eq fun _ => rfl

section

variable (hs : PreservingReads doc I)

include hs

theorem PreservingReads.rejection {r : Rejection} {c : Code} (hr : r.code? = some c)
    (hc : c.isOfOperation) (source : String) :
    Preserves I (modify fun p => (r.diagnostics source).foldl Progress.report p) := by
  refine preserves_rejection (fun p d hd => hs.report p d ?_) source
  rwa [← Option.some.inj (hr.symm.trans hd)]

theorem PreservingReads.reject {r : Rejection} {c : Code} (hr : r.code? = some c)
    (hc : c.isOfOperation) (source : String) : Preserves I (Classify.reject r source : Classify α) :=
  hs.rejection hr hc source

theorem preserves_buildParameter (f : Fragment) : Preserves I (buildParameter doc f) := by
  unfold buildParameter
  split
  · exact hs.reject rfl rfl _
  · dsimp only
    split
    · refine (hs.classifySlot _ _).bind fun id? => ?_
      cases id? with
      | none => exact hs.reject rfl rfl _
      | some id => exact .pure _
    · rw [pure_bind]
      exact hs.reject rfl rfl _

theorem preserves_buildParameters (fs : List Fragment) : Preserves I (buildParameters doc fs) := by
  induction fs with
  | nil => exact .pure _
  | cons f fs ih =>
    unfold buildParameters
    exact (preserves_buildParameter hs f).attempt.bind fun _ => ih.bind fun _ => .pure _

theorem preserves_mergedParameters (item operation : Fragment) :
    Preserves I (mergedParameters doc item operation) := by
  have hall : ∀ slots, Preserves I (resolveParameters doc slots) := by
    intro slots
    induction slots with
    | nil => exact .pure _
    | cons slot slots ih =>
      have rest : ∀ found : Option Fragment, Preserves I
          (resolveParameters doc slots >>= fun rest => pure (found.toList ++ rest)) :=
        fun _ => ih.bind fun _ => .pure _
      unfold resolveParameters
      dsimp only
      split
      · rename_i hres
        exact (hs.reject (Document.code?_of_resolve hres) rfl _).attempt.bind fun _ => rest _
      · rw [pure_bind]
        exact rest _
  exact (hall _).bind fun _ => .pure _

theorem preserves_buildRequest (identity : Identity) (operation : Fragment) :
    Preserves I (buildRequest doc identity operation) := by
  unfold buildRequest
  split
  · rename_i hres
    exact hs.reject (Document.code?_of_resolve hres) rfl _
  · exact .pure _
  · split
    · exact .pure _
    · dsimp only
      refine (hs.classifySlot _ _).bind fun id? => ?_
      cases id? with
      | none => exact hs.reject rfl rfl _
      | some id =>
        refine (preserves_isStream id).bind fun b => ?_
        cases b <;> exact .pure _
    · exact hs.reject rfl rfl _

theorem preserves_buildBodyRequest (operation : Json) (body : Fragment) :
    Preserves I (buildBodyRequest doc operation body) := by
  unfold buildBodyRequest
  refine (preserves_buildParameter hs body).bind fun a => (preserves_isStream a.schema).bind fun b => ?_
  cases b <;> exact .pure _

theorem preserves_buildFields (fs : List Fragment) : Preserves I (buildFields doc fs) := by
  induction fs with
  | nil => exact .pure _
  | cons f fs ih =>
    unfold buildFields
    exact (preserves_buildParameter hs f).bind fun _ => ih.bind fun _ => .pure _

end

section

variable (hs : PreservingSlots doc I)

include hs

theorem preserves_buildFormRequest (identity : Identity) (operation : Json) (parts : List Fragment) :
    Preserves I (buildFormRequest doc identity operation parts) := by
  intro p hp
  have hfields := preserves_buildFields hs.toPreservingReads parts p hp
  unfold buildFormRequest
  cases hrun : buildFields doc parts p with
  | error r p' =>
    rw [after_of_error hrun] at hfields
    rwa [after_bind_error hrun]
  | ok fields p' =>
    rw [after_of_ok hrun] at hfields
    have hget : (get : Classify Progress) p' = .ok p' p' := rfl
    rw [after_bind_ok hrun, after_bind_ok hget]
    dsimp only
    have gathered : ∀ mediaType, I (after
        (addSchema (.undescribed (identity.joined ++ "Body")
          (.object (fields.map fieldProperty) none none)) >>= fun schema =>
            Pure.pure (⟨mediaType, .parameter (formParameter operation fields schema)⟩ : Request)) p') :=
      fun _ => hs.gather identity parts fields p p' hp hrun hfields
    split
    · split
      · exact hfields
      · exact gathered _
    · exact gathered _

theorem preserves_buildPartsRequest (identity : Identity) (operation : Json)
    (parts : List Fragment) : Preserves I (buildPartsRequest doc identity operation parts) := by
  unfold buildPartsRequest
  split
  · exact .pure _
  · split
    · exact (preserves_buildBodyRequest hs.toPreservingReads _ _).map _
    · exact (preserves_buildFormRequest hs _ _ _).map _

/-- An operation is reported as a duplicate only if its identity is taken. -/
theorem preserves_buildOperation (separator : Char) (groups : Groups) (e : Endpoint)
    (htaken : (groups.find? (e.identity separator).group (e.identity separator).member).isSome →
      ∀ p d, d.code = .duplicateOperation → I p → I (p.report d)) :
    Preserves I (buildOperation doc separator groups e.method e.key e.item e.operation) := by
  have hcode : ∀ d ∈ (Identity.ofOperation e.method e.key e.operation.value e.operation.pointer
      separator).2, d.code = .interpretations :=
    fun _ => Identity.code_of_mem_said
  unfold buildOperation
  unfold Endpoint.identity at htaken
  dsimp only
  generalize Identity.ofOperation e.method e.key e.operation.value e.operation.pointer separator = found
    at hcode htaken
  obtain ⟨identity, said⟩ := found
  have hsaid : ∀ d ∈ said, Preserves I (report d) := fun d hd =>
    preserves_report fun p => hs.report p d (by rw [hcode d hd]; rfl)
  refine (preserves_forM hsaid).bind fun _ => ?_
  split
  · rename_i ht
    have hdup : ∀ d : Diagnostic,
        (Rejection.duplicateOperation identity.group identity.member).code? = some d.code →
          d.code = .duplicateOperation :=
      fun d hd => (Option.some.inj hd).symm
    exact preserves_reject (fun p d hd => htaken ht p d (hdup d hd)) _
  · refine (preserves_mergedParameters hs.toPreservingReads e.item e.operation).bind fun merged => ?_
    refine (preserves_buildParameters hs.toPreservingReads _).bind fun parameters => ?_
    refine (preserves_buildRequest hs.toPreservingReads identity e.operation).bind fun r? => ?_
    cases r? with
    | some r => dsimp only; rw [pure_bind]; exact .pure _
    | none => exact (preserves_buildPartsRequest hs identity _ _).bind fun _ => .pure _

end

section

variable (hs : PreservingReads doc I)

include hs

theorem preserves_classifyAll (entries : List (String × Path)) :
    Preserves I (classifyAll doc entries) := by
  induction entries with
  | nil => exact .pure _
  | cons e entries ih =>
    rw [classifyAll_cons]
    exact (hs.classifySlot _ _).attempt.bind fun _ => ih

theorem preserves_classifyComponents : Preserves I (classifyComponents doc) := by
  have hcarried : ∀ entries, Preserves I (classifyCarried doc entries) := by
    intro entries
    induction entries with
    | nil => exact .pure _
    | cons e entries ih =>
      obtain ⟨name, slot⟩ := e
      unfold classifyCarried
      dsimp only
      split
      · rename_i hres
        exact (hs.rejection (Document.code?_of_resolve hres) rfl _).bind fun _ => ih
      · exact ih
      · exact (preserves_classifyAll hs _).bind fun _ => ih
  unfold classifyComponents
  refine (hcarried _).bind fun _ => (preserves_classifyAll hs _).bind fun _ => ?_
  exact preserves_classifyAll hs _

end

namespace PreservingSlots

variable {p : Progress} {d : Draft} (hs : PreservingSlots doc I)

include hs

theorem declareAll (hp : I p) (fields : List (String × Json)) :
    I { p with catalog := (ServerVariable.declareAll fields p.catalog).2 } := by
  induction fields generalizing p with
  | nil => exact hp
  | cons field fields ih => exact ih (hs.declare p field.1 field.2 hp)

theorem registerAll (hp : I p) (vs : List Json) (known : List ServerId) (servers : Servers) :
    I { p with catalog := (Servers.registerAll vs known servers p.catalog).2.2 } := by
  induction vs generalizing p known servers with
  | nil => exact hp
  | cons v vs ih =>
    unfold Servers.registerAll
    split
    · exact ih hp known servers
    · rename_i url _
      have hreg : I { p with catalog := (servers.register p.catalog url v).2.2 } := by
        unfold Servers.register
        split
        · exact hp
        · exact hs.declareAll hp _
      exact ih hreg _ _

theorem attempted (hd : I d.progress) {separator : Char} {e : Endpoint}
    (htaken : (d.groups.find? (e.identity separator).group (e.identity separator).member).isSome →
      ∀ p d, d.code = .duplicateOperation → I p → I (p.report d)) :
    I (d.attempted doc separator e).progress := by
  have hbuilt := preserves_buildOperation hs separator d.groups e htaken d.progress hd
  unfold Draft.attempted Draft.addOperation
  cases hrun : buildOperation doc separator d.groups e.method e.key e.item e.operation d.progress with
  | error r p => rw [after_of_error hrun] at hbuilt; exact hbuilt
  | ok found p =>
    rw [after_of_ok hrun] at hbuilt
    exact hs.registerAll hbuilt _ _ _

/-- Components are classified last. -/
theorem fullDraft {options : Options} (hd : I (doc.draft options).progress) :
    I (doc.fullDraft options).progress := by
  rw [Document.fullDraft_eq]
  split
  · exact preserves_classifyComponents hs.toPreservingReads _ hd
  · exact hd

end PreservingSlots

end Classify

/-! ### Runs -/

/-- What is needed of `I` for a run over a document. -/
structure PreservingRun (doc : Document) (I : Progress → Prop) : Prop
    extends Classify.PreservingSlots doc I where
  duplicate : ∀ p d, d.code = .duplicateOperation → I p → I (p.report d)

namespace PreservingRun

variable {doc : Document} {I : Progress → Prop} (hs : PreservingRun doc I)

include hs

theorem walk {separator : Char} {d last : Draft} {as : List Attempt}
    (hw : Draft.Walk doc separator d as last) (hd : I d.progress) : I last.progress := by
  induction hw with
  | done d => exact hd
  | unresolved source hr _ ih => exact ih (hs.rejection hr rfl source _ hd)
  | attempt e _ ih => exact ih (hs.attempted hd fun _ => hs.duplicate)

/-- What a run preserves holds at its end, if it holds at the start. -/
theorem run (hinit : I {}) (options : Options) : I (doc.fullDraft options).progress :=
  hs.fullDraft (hs.walk (doc.walk_draft options) hinit)

end PreservingRun

/-- What is needed of `I` for any steps. -/
structure PreservingSteps (doc : Document) (I : Progress → Prop) : Prop
    extends Classify.PreservingSlots doc I where
  /-- A visit that leads to no operation reports any cause. -/
  say : ∀ p d (r : Rejection), r.code? = some d.code → I p → I (p.report d)
  classify : ∀ name (f : doc.Node), Classify.Preserves I (Classify.classify doc name f.toFragment)

namespace PreservingSteps

variable {doc : Document} {I : Progress → Prop} (hs : PreservingSteps doc I)

include hs

theorem visit {d : Draft} (hd : I d.progress) (separator : Char) (seen : Memo Path Unit) (v : Visit) :
    I (Draft.visit doc separator seen v d).2.progress := by
  cases v with
  | unresolved r source =>
    exact Classify.preserves_rejection (fun p d hd => hs.say p d r hd) source _ hd
  | operation method key item operation =>
    cases he : seen.get? operation.path with
    | some e => rw [Draft.visit_of_seen he]; exact hd
    | none =>
      obtain ⟨_, hv⟩ := Draft.visit_of_new he
      rw [hv]
      have htaken : ∀ p d, d.code = .duplicateOperation → I p → I (p.report d) :=
        fun p d hd => hs.say p d (.duplicateOperation "" "") (by rw [hd]; rfl)
      exact hs.attempted (e := ⟨method, key, item, operation⟩) hd fun _ => htaken

theorem run {d : Draft} (hd : I d.progress) (s : Step doc) : I (s.run d).progress := by
  cases s with
  | classify name f => exact hs.classify name f _ hd
  | classifySlot slot fallback => exact hs.classifySlot slot fallback _ hd
  | parameter f => exact Classify.preserves_buildParameter hs.toPreservingReads f _ hd
  | request identity operation =>
    exact Classify.preserves_buildRequest hs.toPreservingReads identity operation _ hd
  | partsRequest identity operation parts =>
    exact Classify.preserves_buildPartsRequest hs.toPreservingSlots identity operation parts _ hd
  | servers operation item => exact hs.registerAll hd _ _ _
  | visit separator seen v => exact hs.visit hd separator seen v
  | components => exact Classify.preserves_classifyComponents hs.toPreservingReads _ hd

theorem runAll {d : Draft} (hd : I d.progress) (steps : List (Step doc)) :
    I (steps.foldl (fun d s => s.run d) d).progress :=
  List.foldlRecOn (motive := fun d : Draft => I d.progress) steps _ hd fun _ h s _ => hs.run h s

/-- What all steps preserve holds after any of them, if it does before the first. -/
theorem after (hinit : I {}) (steps : List (Step doc)) : I (doc.after steps).progress :=
  hs.runAll hinit steps

end PreservingSteps

end ApiModel

import ApiModel.Proofs.Reports
import ApiModel.Proofs.Steps
import ApiModel.Proofs.Walk

/-!
# Nothing is left out without an error

An `Accounted` progress has an error for its failed nodes, if there are any; all steps keep this and
take back nothing that was reported (`Notes`). `Discloses x Q E` says so of a step `x`, and that it
rejects its node only if an error was reported by then. A step that goes on whatever comes of others
therefore has left out nothing if no error was reported: `Q` is what then holds of its result. `E`
holds of the causes of a rejection.
-/

namespace ApiModel

namespace Progress

variable {p p' q : Progress} {r : Rejection}

/-- No error was reported. -/
def Clean (p : Progress) : Prop := Diagnostic.errorCount p.diagnostics.toList = 0

/-- If a node has failed, an error was reported. -/
def Accounted (p : Progress) : Prop := p.Clean → ∀ path, p.memo.get? path ≠ some .failed

structure Notes (p p' : Progress) : Prop where
  said : p.diagnostics.toList <+: p'.diagnostics.toList
  accounted : p'.Accounted

theorem Accounted.initial : ({} : Progress).Accounted :=
  fun _ path h => by simp [Memo.get?, Assoc.get?] at h

theorem clean_of_earlier (h : p.diagnostics.toList <+: p'.diagnostics.toList) (hc : p'.Clean) :
    p.Clean :=
  Nat.le_zero.mp (Nat.le_trans (h.sublist.countP_le) (Nat.le_of_eq hc))

theorem Notes.clean (h : p.Notes p') (hc : p'.Clean) : p.Clean := clean_of_earlier h.said hc

theorem Notes.trans (h : p.Notes p') (h' : p'.Notes q) : p.Notes q :=
  ⟨h.said.trans h'.said, h'.accounted⟩

/-- Reports, and changes of the catalog only. -/
theorem Accounted.notes (h : p.Accounted) (hd : p.diagnostics.toList <+: p'.diagnostics.toList)
    (hm : p'.memo = p.memo) : p.Notes p' :=
  ⟨hd, fun hc path => hm ▸ h (clean_of_earlier hd hc) path⟩

theorem Accounted.refl_notes (h : p.Accounted) : p.Notes p := h.notes (List.prefix_refl _) rfl

theorem Accounted.notes_reports (h : p.Accounted) (ds : List Diagnostic) :
    p.Notes (ds.foldl Progress.report p) :=
  h.notes (diagnostics_foldl_report p ds ▸ List.prefix_append ..) (memo_foldl_report p ds)

theorem Quiet.notes (hq : p.Quiet p') (h : p.Accounted) : p.Notes p' := by
  obtain ⟨ds, hds, -⟩ := hq.said
  have hd : p.diagnostics.toList <+: p'.diagnostics.toList := hds ▸ List.prefix_append ..
  exact ⟨hd, fun hc path hf => h (clean_of_earlier hd hc) path (hq.failed path hf)⟩

theorem not_clean_of_said {r : Rejection} {c : Code} {ds : List Diagnostic} {source : String}
    (hr : r.code? = some c) (h : p.diagnostics.toList = ds ++ r.diagnostics source) : ¬ p.Clean := by
  simp [Clean, h, Rejection.diagnostics, hr, Diagnostic.errorCount, Diagnostic.isError]

theorem Fails.not_clean (hf : p.Fails r p') (h : p.Accounted) : ¬ p'.Clean := by
  obtain ⟨ds, source, hds, -⟩ := hf.said
  cases hr : r.code? with
  | some c => exact not_clean_of_said hr hds
  | none =>
    obtain ⟨path, hfailed⟩ := hf.before hr
    intro hc
    refine h (clean_of_earlier ?_ hc) path hfailed
    rw [hds, List.append_assoc]
    exact List.prefix_append ..

theorem Fails.notes (hf : p.Fails r p') (h : p.Accounted) : p.Notes p' := by
  obtain ⟨ds, source, hds, -⟩ := hf.said
  refine ⟨?_, fun hc => absurd hc (hf.not_clean h)⟩
  rw [hds, List.append_assoc]
  exact List.prefix_append ..

end Progress

namespace Classify

open Progress (Accounted Notes Clean)

variable {doc : Document} {α β : Type} {x : Classify α} {Q Q' : α → Prop} {R : β → Prop}
  {E E' : Rejection → Prop}

def Discloses (x : Classify α) (Q : α → Prop) (E : Rejection → Prop) : Prop :=
  ∀ p : Progress, p.Accounted →
    match x p with
    | .ok a p' => p.Notes p' ∧ (p'.Clean → Q a)
    | .error r p' => p.Notes p' ∧ ¬ p'.Clean ∧ E r

namespace Discloses

theorem pure {a : α} (h : Q a) : Discloses (Pure.pure a) Q E :=
  fun _ ha => ⟨ha.refl_notes, fun _ => h⟩

theorem mono (hx : Discloses x Q E) (hQ : ∀ a, Q a → Q' a) (hE : ∀ r, E r → E' r) :
    Discloses x Q' E' := by
  intro p ha
  have hx := hx p ha
  cases hrun : x p with
  | ok a p' => rw [hrun] at hx; exact ⟨hx.1, fun hc => hQ a (hx.2 hc)⟩
  | error r p' => rw [hrun] at hx; exact ⟨hx.1, hx.2.1, hE r hx.2.2⟩

theorem bind {f : α → Classify β} (hx : Discloses x Q E)
    (hf : ∀ a, Discloses (f a) (fun b => Q a → R b) E) : Discloses (x >>= f) R E := by
  intro p ha
  have hx := hx p ha
  cases hrun : x p with
  | error r p' =>
    rw [hrun] at hx
    rw [run_bind_error hrun]
    exact hx
  | ok a p' =>
    rw [hrun] at hx
    obtain ⟨hn, hQ⟩ := hx
    have hf := hf a p' hn.accounted
    rw [run_bind_ok hrun]
    cases hrun' : f a p' with
    | ok b q =>
      rw [hrun'] at hf
      exact ⟨hn.trans hf.1, fun hc => hf.2 hc (hQ (hf.1.clean hc))⟩
    | error r q =>
      rw [hrun'] at hf
      exact ⟨hn.trans hf.1, hf.2⟩

theorem next {y : Classify β} (hx : Discloses x Q E) (hy : Discloses y R E) :
    Discloses (x >>= fun _ => y) R E :=
  hx.bind fun _ => hy.mono (fun _ h _ => h) fun _ h => h

theorem map {f : α → β} (hx : Discloses x Q E) (hf : ∀ a, Q a → R (f a)) :
    Discloses (f <$> x) R E := by
  have hrun : f <$> x = x >>= fun a => Pure.pure (f a) := (bind_pure_comp f x).symm
  rw [hrun]
  exact hx.bind fun a => .pure (hf a)

theorem notes_after (hx : Discloses x Q E) {p : Progress} (h : p.Accounted) :
    p.Notes (after x p) := by
  have hx := hx p h
  unfold after
  cases hrun : x p with
  | ok a p' | error r p' => rw [hrun] at hx; exact hx.1

end Discloses

/-- The cause is one of a schema, a parameter or a request. -/
def BelowOperation (r : Rejection) : Prop := r.code? ≠ some .duplicateOperation

theorem Reports.discloses (hx : Reports [] x) : Discloses x (fun _ => True) BelowOperation := by
  intro p ha
  have hx := hx p fun _ hm => by cases hm
  cases hrun : x p with
  | ok a p' => rw [hrun] at hx; exact ⟨hx.notes ha, fun _ => trivial⟩
  | error r p' => rw [hrun] at hx; exact ⟨hx.notes ha, hx.not_clean ha, hx.not_duplicate⟩

theorem discloses_reports (ds : List Diagnostic) :
    Discloses (modify fun p => ds.foldl Progress.report p) (fun _ => True) E :=
  fun _ ha => ⟨ha.notes_reports ds, fun _ => trivial⟩

theorem discloses_forM_report (ds : List Diagnostic) :
    Discloses (ds.forM report) (fun _ => True) E := by
  induction ds with
  | nil => exact .pure trivial
  | cons d ds ih =>
    have hd : Discloses (report d) (fun _ => True) E := discloses_reports [d]
    exact hd.next ih

theorem discloses_reject {r : Rejection} {c : Code} (hr : r.code? = some c) (hE : E r)
    (source : String) : Discloses (reject r source : Classify α) Q E :=
  fun p ha => ⟨ha.notes_reports _,
    Progress.not_clean_of_said hr (Progress.diagnostics_foldl_report p _), hE⟩

theorem discloses_reject_below {r : Rejection} {c : Code} (hr : r.code? = some c)
    (hc : c ≠ .duplicateOperation) (source : String) :
    Discloses (reject r source : Classify α) Q BelowOperation :=
  discloses_reject hr (by simp [BelowOperation, hr, hc]) source

theorem discloses_attempt (hx : Discloses x Q E) :
    Discloses (attempt x) (fun a? => ∃ a, a? = some a ∧ Q a) E' := by
  intro p ha
  have hx := hx p ha
  unfold attempt
  cases hrun : x p with
  | ok a p' => rw [hrun] at hx; exact ⟨hx.1, fun hc => ⟨a, rfl, hx.2 hc⟩⟩
  | error r p' => rw [hrun] at hx; exact ⟨hx.1, fun hc => absurd hc hx.2.1⟩

theorem discloses_classifySlot (slot : Path) (fallback : String) :
    Discloses (classifySlot doc slot fallback) (fun _ => True) BelowOperation :=
  (reports_classifySlot doc slot fallback).discloses

/-- The parameter has the name and the place of the key. -/
def HasKey (key : String × String) (a : Parameter) : Prop :=
  a.name = key.1 ∧ Location.parse? key.2 = some a.location

theorem hasKey_of_nameAndLocation? {v : Json} {name : String} {location : Location}
    (h : nameAndLocation? v = some (name, location)) (schema : SchemaId) :
    HasKey v.parameterKey (parameterOf v name location schema) := by
  obtain ⟨hname, -, hlocation⟩ := nameAndLocation?_eq_some_iff.mp h
  obtain ⟨place, hplace, hparse⟩ := Option.bind_eq_some_iff.mp hlocation
  simp [HasKey, parameterOf, Json.parameterKey, hname, hplace, hparse]

theorem discloses_buildParameter (f : Fragment) :
    Discloses (buildParameter doc f) (HasKey f.value.parameterKey) BelowOperation := by
  unfold buildParameter
  split
  · exact discloses_reject_below rfl (by decide) _
  · rename_i name location hfound
    dsimp only
    split
    · rename_i slot _
      refine (discloses_classifySlot slot name).bind fun schema? => ?_
      cases schema? with
      | none => exact discloses_reject_below rfl (by decide) _
      | some schema => exact .pure fun _ => hasKey_of_nameAndLocation? hfound schema
    · rw [pure_bind]
      exact discloses_reject_below rfl (by decide) _

theorem discloses_buildParameters (fs : List Fragment) :
    Discloses (buildParameters doc fs)
      (fun as => List.Forall₂ (fun f a => HasKey f.value.parameterKey a) fs as) E := by
  induction fs with
  | nil => exact .pure .nil
  | cons f fs ih =>
    unfold buildParameters
    refine (discloses_attempt (discloses_buildParameter f)).bind fun a? => ih.bind fun as => .pure ?_
    rintro hf ⟨a, rfl, ha⟩
    exact .cons ha hf

/-- All these slots that are declared stand for something. -/
def AllResolve (doc : Document) (slots : List Path) : Prop :=
  ∀ slot ∈ slots, (doc.at? slot).isSome → (doc.node? slot).isSome

theorem discloses_resolveParameters (slots : List Path) :
    Discloses (resolveParameters doc slots)
      (fun fs => AllResolve doc slots ∧ fs = slots.filterMap doc.node?) E := by
  induction slots with
  | nil => exact .pure ⟨fun _ h => (List.not_mem_nil h).elim, rfl⟩
  | cons slot slots ih =>
    have rest : ∀ found : Option Fragment, Discloses
        (resolveParameters doc slots >>= fun rest => pure (found.toList ++ rest))
        (fun fs => found = doc.node? slot → ((doc.at? slot).isSome → found.isSome) →
          AllResolve doc (slot :: slots) ∧ fs = (slot :: slots).filterMap doc.node?) E := by
      intro found
      refine ih.bind fun fs => .pure ?_
      rintro ⟨hall, rfl⟩ rfl hslot
      exact ⟨List.forall_mem_cons.mpr ⟨hslot, hall⟩, by cases hn : doc.node? slot <;> simp [hn]⟩
    unfold resolveParameters
    dsimp only
    split
    · rename_i r hr
      have hrej : Discloses (reject r (Pointer.ofPath slot) : Classify Fragment) (fun _ => False)
          (fun _ => True) := discloses_reject (Document.code?_of_resolve hr) trivial _
      refine (discloses_attempt hrej).bind fun found => (rest found).mono ?_ fun _ h => h
      rintro _ _ ⟨_, _, h⟩
      exact h.elim
    · rename_i target ht
      rw [pure_bind]
      cases target with
      | none =>
        have hnone := Document.resolve_eq_none_iff.mp ht
        exact (rest _).mono (fun fs h => h (Document.node?_of_none ht).symm (by simp [hnone]))
          fun _ h => h
      | some t =>
        exact (rest _).mono (fun fs h => h (Document.node?_of_some ht).symm fun _ => rfl) fun _ h => h

theorem discloses_mergedParameters (item operation : Fragment) :
    Discloses (mergedParameters doc item operation)
      (fun fs => (∀ slot ∈ doc.parameterSlots item operation, (doc.node? slot).isSome) ∧
        fs = mergeParameters (doc.declaredParameters item operation)) E := by
  refine (discloses_resolveParameters _).bind fun _ => .pure ?_
  rintro ⟨hall, rfl⟩
  refine ⟨fun slot hs => hall slot hs ?_, rfl⟩
  exact (List.mem_append.mp hs).elim Document.isSome_at?_of_mem_items
    Document.isSome_at?_of_mem_items

theorem discloses_isStream (id : SchemaId) : Discloses (isStream id) (fun _ => True) E :=
  fun _ ha => ⟨ha.refl_notes, fun _ => trivial⟩

theorem discloses_addSchema (s : Schema) : Discloses (addSchema s) (fun _ => True) E :=
  fun _ ha => ⟨ha.notes (List.prefix_refl _) rfl, fun _ => trivial⟩

theorem discloses_buildRequest (identity : Identity) (operation : Fragment) :
    Discloses (buildRequest doc identity operation) (fun _ => True) BelowOperation := by
  unfold buildRequest
  split
  · rename_i r hr
    exact discloses_reject_below (Document.code?_of_resolve hr) (by decide) _
  · exact .pure trivial
  · split
    · exact .pure trivial
    · dsimp only
      refine (discloses_classifySlot _ _).bind fun id? => ?_
      cases id? with
      | none => exact discloses_reject_below rfl (by decide) _
      | some id =>
        refine (discloses_isStream id).bind fun b => ?_
        cases b <;> exact .pure fun _ _ => trivial
    · exact discloses_reject_below rfl (by decide) _

theorem discloses_buildBodyRequest (operation : Json) (body : Fragment) :
    Discloses (buildBodyRequest doc operation body) (fun _ => True) BelowOperation := by
  unfold buildBodyRequest
  refine (discloses_buildParameter body).bind fun a => (discloses_isStream a.schema).bind fun b => ?_
  cases b <;> exact .pure fun _ _ => trivial

theorem discloses_buildFields (fs : List Fragment) :
    Discloses (buildFields doc fs) (fun _ => True) BelowOperation := by
  induction fs with
  | nil => exact .pure trivial
  | cons f fs ih =>
    unfold buildFields
    exact (discloses_buildParameter f).bind fun _ => ih.bind fun _ => .pure fun _ _ => trivial

theorem discloses_buildFormRequest (identity : Identity) (operation : Json) (parts : List Fragment) :
    Discloses (buildFormRequest doc identity operation parts) (fun _ => True) BelowOperation := by
  unfold buildFormRequest
  refine (discloses_buildFields parts).bind fun fields => ?_
  have hget : Discloses (get : Classify Progress) (fun _ => True) BelowOperation :=
    fun _ ha => ⟨ha.refl_notes, fun _ => trivial⟩
  refine hget.bind fun q => ?_
  dsimp only
  split
  · split
    · exact .pure fun _ _ => trivial
    · exact (discloses_addSchema _).bind fun _ => .pure fun _ _ _ => trivial
  · exact (discloses_addSchema _).bind fun _ => .pure fun _ _ _ => trivial

theorem discloses_buildPartsRequest (identity : Identity) (operation : Json)
    (parts : List Fragment) :
    Discloses (buildPartsRequest doc identity operation parts) (fun _ => True) BelowOperation := by
  unfold buildPartsRequest
  split
  · exact .pure trivial
  · split
    · exact (discloses_buildBodyRequest _ _).map fun _ _ => trivial
    · exact (discloses_buildFormRequest _ _ _).map fun _ _ => trivial

/-- No parameter that is declared for an operation is missing. -/
structure HasDeclared (doc : Document) (item operation : Fragment) (op : Operation) : Prop where
  resolved : ∀ slot ∈ doc.parameterSlots item operation, (doc.node? slot).isSome
  /-- There is one parameter for each key, those of the request body left out. -/
  parameters : List.Forall₂ HasKey
    ((doc.parameterKeys item operation).filter fun k => !isBodyKey k) op.parameters

/-- An operation is rejected as a duplicate exactly if its identity is taken. -/
theorem discloses_buildOperation (separator : Char) (groups : Groups) (e : Endpoint) :
    Discloses (buildOperation doc separator groups e.method e.key e.item e.operation)
      (fun o => HasDeclared doc e.item e.operation o.2)
      (fun r => r.code? = some .duplicateOperation ↔
        (groups.find? (e.identity separator).group (e.identity separator).member).isSome) := by
  unfold buildOperation Endpoint.identity
  dsimp only
  generalize Identity.ofOperation e.method e.key e.operation.value e.operation.pointer separator = found
  obtain ⟨identity, said⟩ := found
  refine (discloses_forM_report said).bind fun _ => ?_
  dsimp only
  split
  · rename_i htaken
    exact discloses_reject rfl (by simp [Rejection.code?, htaken]) _
  · rename_i hfree
    refine .mono (.bind (discloses_mergedParameters e.item e.operation) fun merged => ?_)
      (fun _ h _ => h) fun _ hr => iff_of_false hr hfree
    refine (discloses_buildParameters _).bind fun parameters => ?_
    have hdeclared : ∀ {op : Operation}, List.Forall₂ (fun f a => HasKey f.value.parameterKey a)
        (merged.partition fun f => f.value.isBodyPart).2 op.parameters →
        (∀ slot ∈ doc.parameterSlots e.item e.operation, (doc.node? slot).isSome) ∧
          merged = mergeParameters (doc.declaredParameters e.item e.operation) →
        HasDeclared doc e.item e.operation op := by
      rintro op hp ⟨hall, rfl⟩
      refine ⟨hall, ?_⟩
      rw [List.partition_eq_filter_filter] at hp
      rw [Document.parameterKeys, ← keys_regular, List.forall₂_map_left_iff]
      exact hp
    refine (discloses_buildRequest identity e.operation).bind fun request? => ?_
    cases request? with
    | some request =>
      dsimp only
      rw [pure_bind]
      exact .pure fun _ hp hm => hdeclared hp hm
    | none =>
      refine (discloses_buildPartsRequest identity _ _).bind fun request? => ?_
      exact .pure fun _ _ hp hm => hdeclared hp hm

theorem classifyAll_cons (name : String) (slot : Path) (rest : List (String × Path)) :
    classifyAll doc ((name, slot) :: rest) =
      attempt (classifySlot doc slot name) >>= fun _ => classifyAll doc rest := by
  funext p
  cases hrun : classifySlot doc slot name p <;>
    simp only [classifyAll, attempt, Bind.bind, EStateM.bind, hrun]

theorem discloses_classifyAll (entries : List (String × Path)) :
    Discloses (classifyAll doc entries) (fun _ => True) E := by
  induction entries with
  | nil => exact .pure trivial
  | cons entry entries ih =>
    rw [classifyAll_cons]
    exact (discloses_attempt (discloses_classifySlot _ _)).next ih

theorem discloses_classifyCarried (entries : List (String × Path)) :
    Discloses (classifyCarried doc entries) (fun _ => True) E := by
  induction entries with
  | nil => exact .pure trivial
  | cons entry entries ih =>
    obtain ⟨name, slot⟩ := entry
    unfold classifyCarried
    dsimp only
    split
    · exact (discloses_reports _).next ih
    · exact ih
    · exact (discloses_classifyAll _).next ih

theorem discloses_classifyComponents : Discloses (classifyComponents doc) (fun _ => True) E :=
  (discloses_classifyCarried _).next ((discloses_classifyAll _).next (discloses_classifyAll _))

end Classify

/-! ### Steps -/

namespace Draft

variable {doc : Document} {d : Draft}

theorem notes_addOperation (h : d.progress.Accounted) (separator : Char) (method : Method)
    (key : String) (item operation : Fragment) :
    d.progress.Notes (addOperation doc separator method key item operation d).2.progress := by
  have hb := (Classify.discloses_buildOperation separator d.groups
    ⟨method, key, item, operation⟩ : Classify.Discloses
      (Classify.buildOperation doc separator d.groups method key item operation) _ _).notes_after h
  unfold Classify.after at hb
  unfold addOperation
  cases hrun : Classify.buildOperation doc separator d.groups method key item operation d.progress with
  | error r p => rw [hrun] at hb; exact hb
  | ok found p =>
    rw [hrun] at hb
    -- What is left to do is to register servers, which takes slots of the catalog.
    exact hb.trans (hb.accounted.notes (List.prefix_refl _) rfl)

theorem notes_visit (h : d.progress.Accounted) (separator : Char) (seen : Memo Path Unit)
    (v : Visit) : d.progress.Notes (visit doc separator seen v d).2.progress := by
  cases v with
  | unresolved r source => exact h.notes_reports _
  | operation method key item op =>
    cases he : seen.get? op.path with
    | none =>
      obtain ⟨_, hv⟩ := visit_of_new he
      rw [hv]
      exact notes_addOperation h separator method key item op
    | some e => rw [visit_of_seen he]; exact h.refl_notes

end Draft

theorem Step.notes_run {doc : Document} {d : Draft} (h : d.progress.Accounted) (s : Step doc) :
    d.progress.Notes (s.run d).progress := by
  cases s with
  | classify name f => exact (Classify.reports_classify doc name f.holds).discloses.notes_after h
  | classifySlot slot fallback => exact (Classify.discloses_classifySlot slot fallback).notes_after h
  | parameter f => exact (Classify.discloses_buildParameter f).notes_after h
  | request identity operation =>
    exact (Classify.discloses_buildRequest identity operation).notes_after h
  | partsRequest identity operation parts =>
    exact (Classify.discloses_buildPartsRequest identity operation parts).notes_after h
  | servers operation item => exact h.notes (List.prefix_refl _) rfl
  | visit separator seen v => exact Draft.notes_visit h separator seen v
  | components =>
    have hx : Classify.Discloses (Classify.classifyComponents doc) _ Classify.BelowOperation :=
      Classify.discloses_classifyComponents
    exact hx.notes_after h

namespace Document

theorem accounted_after (doc : Document) (steps : List (Step doc)) :
    (doc.after steps).progress.Accounted :=
  List.foldlRecOn (motive := fun d : Draft => d.progress.Accounted) steps _ .initial
    fun _ h s _ => (s.notes_run h).accounted

end Document

/-- What was said of the outcome of a step from `p`: warnings, and of a rejection also the one error
that is its cause, at the end; but of a node that was rejected before an error was there already. -/
def Classify.SaidOnce {α : Type} (p : Progress) : EStateM.Result Rejection Progress α → Prop
  | .ok _ p' => ∃ said, p'.diagnostics.toList = p.diagnostics.toList ++ said ∧
      Diagnostic.errorCount said = 0
  | .error (.rejectedBefore _) p' => (∃ said, p'.diagnostics.toList = p.diagnostics.toList ++ said ∧
      Diagnostic.errorCount said = 0) ∧ 0 < Diagnostic.errorCount p.diagnostics.toList
  | .error r p' => ∃ said d, p'.diagnostics.toList = p.diagnostics.toList ++ said ++ [d] ∧
      Diagnostic.errorCount said = 0 ∧ d.isError ∧ d.message = r.message

theorem Progress.Fails.saidOnce {p p' : Progress} {r : Rejection} (hf : p.Fails r p')
    (h : p.Accounted) {α : Type} : Classify.SaidOnce (α := α) p (.error r p') := by
  obtain ⟨ds, source, hds, hn⟩ := hf.said
  unfold Classify.SaidOnce
  cases r with
  | rejectedBefore name =>
    obtain ⟨path, hfailed⟩ := hf.before rfl
    refine ⟨⟨ds, ?_, hn⟩, Nat.pos_of_ne_zero fun hc => h hc path hfailed⟩
    simpa [Rejection.diagnostics, Rejection.code?] using hds
  | _ => exact ⟨ds, _, hds, hn, rfl, rfl⟩

/-- After any steps, classifying a slot says of its outcome what is due. -/
theorem Document.classifySlot_saidOnce (doc : Document) (steps : List (Step doc)) (slot : Path)
    (fallback : String) :
    Classify.SaidOnce (doc.after steps).progress
      (Classify.classifySlot doc slot fallback (doc.after steps).progress) := by
  have hx := Classify.reports_classifySlot doc slot fallback (doc.after steps).progress
    fun _ hm => by cases hm
  cases hrun : Classify.classifySlot doc slot fallback (doc.after steps).progress with
  | ok id? p => rw [hrun] at hx; exact hx.said
  | error r p => rw [hrun] at hx; exact hx.saidOnce (doc.accounted_after steps)

end ApiModel

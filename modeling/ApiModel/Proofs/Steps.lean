import ApiModel.Modeling.Run
import ApiModel.Proofs.Draft

/-!
# Steps of modeling

A `Step` is anything that modeling does while no node is in progress: classifying a node or a slot,
reading a part of an operation, registering servers, adding an operation, classifying the components.
Every step keeps a draft sound, so the drafts after any steps are, and with them that of a whole run
(`fullDraft_eq_after`). `Settled` says of slots and memory what holds in each of these drafts.
-/

namespace ApiModel

inductive Step (doc : Document)
  | classify (name : String) (f : doc.Node)
  | classifySlot (slot : Path) (fallback : String)
  | parameter (f : Fragment)
  | request (identity : Identity) (operation : Fragment)
  | partsRequest (identity : Identity) (operation : Json) (parts : List Fragment)
  | servers (operation item : Json)
  | visit (separator : Char) (seen : Memo Path Unit) (v : Visit)
  | components

namespace Draft

/-- The draft after a step of a classification, whatever comes of it. -/
def classified {α : Type} (d : Draft) (x : Classify α) : Draft :=
  { d with progress := Classify.after x d.progress }

theorem Sound.classified {doc : Document} {d : Draft} (h : d.Sound doc) {α : Type} {x : Classify α}
    {Q : α → Progress → Prop} {E : Prop} (hx : Classify.Ensures doc [] d.progress x Q E) :
    (d.classified x).Sound doc :=
  h.progress hx.leads_after

section

variable {doc : Document} {d : Draft} {separator : Char} {seen : Memo Path Unit} {method : Method}
  {key : String} {item operation : Fragment}

/-- An operation that was looked at before is not looked at again. -/
theorem visit_of_seen {e : Memo.Entry Unit} (he : seen.get? operation.path = some e) :
    visit doc separator seen (.operation method key item operation) d = (seen, d) := by
  unfold visit Memo.memoize
  cases e <;> simp only [he] <;> rfl

/-- Any other is looked at, and known from then on. -/
theorem visit_of_new (he : seen.get? operation.path = none) :
    ∃ e, visit doc separator seen (.operation method key item operation) d =
      (seen.set operation.path e, (addOperation doc separator method key item operation d).2) := by
  unfold visit Memo.memoize
  simp only [he, bind, StateT.bind]
  cases hr : addOperation doc separator method key item operation d with
  | mk r d' =>
    cases r with
    | error r => exact ⟨.failed, rfl⟩
    | ok u => exact ⟨.done u, rfl⟩

theorem Sound.visit (h : d.Sound doc) (separator : Char) (seen : Memo Path Unit) (v : Visit) :
    (Draft.visit doc separator seen v d).2.Sound doc := by
  cases v with
  | unresolved r source => exact h.progress (Classify.leads_reports h.coherent _)
  | operation method key item operation =>
    cases he : seen.get? operation.path with
    | none =>
      obtain ⟨_, hv⟩ := visit_of_new he
      rw [hv]
      exact h.addOperation separator method key item operation
    | some e => rw [visit_of_seen he]; exact h

end

end Draft

namespace Step

variable {doc : Document}

def run (s : Step doc) (d : Draft) : Draft :=
  match s with
  | classify name f => d.classified (Classify.classify doc name f.toFragment)
  | classifySlot slot fallback => d.classified (Classify.classifySlot doc slot fallback)
  | parameter f => d.classified (Classify.buildParameter doc f)
  | request identity operation => d.classified (Classify.buildRequest doc identity operation)
  | partsRequest identity operation parts =>
    d.classified (Classify.buildPartsRequest doc identity operation parts)
  | servers operation item => d.registered doc operation item
  | visit separator seen v => (Draft.visit doc separator seen v d).2
  | components => d.classified (Classify.classifyComponents doc)

theorem sound_run {d : Draft} (h : d.Sound doc) (s : Step doc) : (s.run d).Sound doc := by
  have hc := h.coherent
  cases s with
  | classify name f =>
    exact h.classified (Classify.classifies_classify doc _ name f.toFragment hc f.holds)
  | classifySlot slot fallback => exact h.classified (Classify.ensures_classifySlot hc slot fallback)
  | parameter f => exact h.classified (Classify.ensures_buildParameter hc f)
  | request identity operation =>
    exact h.classified (Classify.ensures_buildRequest hc identity operation)
  | partsRequest identity operation parts =>
    exact h.classified (Classify.ensures_buildPartsRequest hc identity operation parts)
  | servers operation item => exact h.registered operation item
  | visit separator seen v => exact h.visit separator seen v
  | components => exact h.classified (E := True) (Classify.ensures_classifyComponents hc)

end Step

/-! ### Runs -/

namespace Document

/-- A document has a model unless there is nothing to look at or its components are misshapen. -/
theorem result_eq_ok_iff {doc : Document} {options : Options} {m : Model} :
    (doc.model options).result = .ok m ↔ doc.failure? = none ∧
      (options.components && doc.isMisshapen "components") = false ∧
      doc.modelOf (doc.fullDraft options) = m := by
  unfold model
  cases doc.failure? with
  | some failure => simp
  | none =>
    cases options.components && doc.isMisshapen "components" <;> simp

theorem diagnostics_of_failure?_eq_none {doc : Document} {options : Options}
    (h : doc.failure? = none) :
    (doc.model options).diagnostics = (doc.fullDraft options).progress.diagnostics.toList := by
  unfold model
  rw [h]
  dsimp only
  split <;> rfl

/-- The draft after some steps. -/
def after (doc : Document) (steps : List (Step doc)) : Draft := steps.foldl (fun d s => s.run d) {}

theorem after_append (doc : Document) (steps more : List (Step doc)) :
    doc.after (steps ++ more) = more.foldl (fun d s => s.run d) (doc.after steps) :=
  List.foldl_append ..

theorem sound_after (doc : Document) (steps : List (Step doc)) : (doc.after steps).Sound doc :=
  List.foldlRecOn steps _ .initial fun _ h s _ => s.sound_run h

theorem visitAll_eq_foldl (doc : Document) (separator : Char) (visits : List Visit)
    (seen : Memo Path Unit) (d : Draft) :
    ∃ steps : List (Step doc),
      (Draft.visitAll doc separator visits seen d).2 = steps.foldl (fun d s => s.run d) d := by
  induction visits generalizing seen d with
  | nil => exact ⟨[], rfl⟩
  | cons v visits ih =>
    obtain ⟨steps, hsteps⟩ := ih (Draft.visit doc separator seen v d).1
      (Draft.visit doc separator seen v d).2
    exact ⟨.visit separator seen v :: steps, hsteps⟩

theorem draft_eq_after (doc : Document) (options : Options) :
    ∃ steps, doc.draft options = doc.after steps :=
  doc.visitAll_eq_foldl options.separator doc.visits {} {}

/-- Components are classified in one step, after all operations. -/
theorem fullDraft_eq (doc : Document) (options : Options) :
    doc.fullDraft options =
      if options.components && !doc.isMisshapen "components" then
        (doc.draft options).classified (Classify.classifyComponents doc)
      else doc.draft options := by
  unfold fullDraft Draft.classified Classify.after
  dsimp only
  split
  · cases Classify.classifyComponents doc (doc.draft options).progress <;> rfl
  · rfl

/-- A whole run is made of steps. -/
theorem fullDraft_eq_after (doc : Document) (options : Options) :
    ∃ steps, doc.fullDraft options = doc.after steps := by
  obtain ⟨steps, hsteps⟩ := doc.draft_eq_after options
  rw [fullDraft_eq, hsteps]
  split
  · refine ⟨steps ++ [.components], ?_⟩
    unfold after
    rw [List.foldl_append]
    rfl
  · exact ⟨steps, rfl⟩

end Document

/-- What holds of slots and memory while no node is in progress. -/
structure Progress.Settled (p : Progress) : Prop where
  /-- No node is in progress. -/
  finished : ∀ path id, p.memo.get? path ≠ some (.inProgress id)
  /-- The slot of a node that is done is filled. -/
  done : ∀ path id, p.memo.get? path = some (.done id) → (p.catalog.get? id).isSome
  /-- A node that failed took one slot, and that slot is empty. -/
  failed : ∀ path, p.memo.get? path = some .failed →
    ∃ id, (∀ id', (path, id') ∈ p.reserved ↔ id' = id) ∧ p.catalog.get? id = none
  /-- No two nodes have the same id. -/
  injective : ∀ path path' id, p.memo.get? path = some (.done id) →
    p.memo.get? path' = some (.done id) → path = path'
  /-- A filled slot is either that of one node that is done, or was taken by no node and holds a schema
  that is made for none. -/
  origin : ∀ id s, p.catalog.get? id = some s →
    (∃! path, p.memo.get? path = some (.done id)) ∧ id ∈ p.reserved.map (·.2) ∨
      Synthesized s ∧ id ∉ p.reserved.map (·.2) ∧ ∀ path, p.memo.get? path ≠ some (.done id)
  /-- There is at most one schema of any value. -/
  any_unique : ∀ id id' s s', p.catalog.get? id = some s → p.catalog.get? id' = some s' →
    s.kind = .any → s'.kind = .any → id = id'
  /-- Whenever a slot was filled, it was there and empty. -/
  filled : ∀ w ∈ p.filled, w.2 = some none

namespace Document

/-- Slots and memory are settled after any steps. -/
theorem settled_after (doc : Document) (steps : List (Step doc)) :
    (doc.after steps).progress.Settled := by
  have h := (doc.sound_after steps).coherent
  refine ⟨h.not_inProgress, fun _ _ => h.isSome_of_done, fun _ => h.exists_slot_of_failed, ?_, ?_, ?_,
    h.filled⟩
  · intro path path' id hd hd'
    exact h.eq_of_idOf? (Progress.idOf?_of_done hd) (Progress.idOf?_of_done hd')
  · intro id s hs
    by_cases hr : id ∈ (doc.after steps).progress.reserved.map (·.2)
    · exact .inl ⟨h.existsUnique_done (by simp [hs]) hr, hr⟩
    · exact .inr ⟨(h.origin id s hs).resolve_left hr, hr, fun path => h.not_done_of_not_reserved hr⟩
  · intro id id' s s' hs hs' hk hk'
    have ha := h.any_unique id s hs hk
    rw [h.any_unique id' s' hs' hk'] at ha
    exact (Option.some.inj ha).symm

end Document

end ApiModel

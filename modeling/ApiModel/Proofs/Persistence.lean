import ApiModel.Proofs.Steps

/-!
# What later steps keep

Each step extends the progress that it starts from, so what was known after some steps is known after
any more: slots keep what they hold, also if that is nothing, and nodes keep what became of them. A
node that is done or has failed is therefore never looked at again (`classify_of_done`,
`classify_of_failed`).
-/

namespace ApiModel

namespace Draft.Sound

variable {doc : Document} {d : Draft}

theorem leads_addOperation (h : d.Sound doc) (separator : Char) (method : Method) (key : String)
    (item operation : Fragment) :
    d.progress.Leads doc []
      (Draft.addOperation doc separator method key item operation d).2.progress := by
  have hb := Classify.ensures_buildOperation h.coherent separator d.groups method key item operation
  unfold Classify.Ensures at hb
  unfold Draft.addOperation
  cases hrun : Classify.buildOperation doc separator d.groups method key item operation d.progress with
  | error r p =>
    rw [hrun] at hb
    exact hb.1
  | ok found p =>
    rw [hrun] at hb
    exact hb.1.trans ((h.progress hb.1).leads_registered operation.value item.value)

theorem leads_visit (h : d.Sound doc) (separator : Char) (seen : Memo Path Unit) (v : Visit) :
    d.progress.Leads doc [] (Draft.visit doc separator seen v d).2.progress := by
  cases v with
  | unresolved r source => exact Classify.leads_reports h.coherent _
  | operation method key item operation =>
    cases he : seen.get? operation.path with
    | none =>
      obtain ⟨_, hv⟩ := visit_of_new he
      rw [hv]
      exact h.leads_addOperation separator method key item operation
    | some e => rw [visit_of_seen he]; exact h.coherent.leads

end Draft.Sound

theorem Step.leads_run {doc : Document} {d : Draft} (h : d.Sound doc) (s : Step doc) :
    d.progress.Leads doc [] (s.run d).progress := by
  have hc := h.coherent
  cases s with
  | classify name f =>
    exact (Classify.classifies_classify doc _ name f.toFragment hc f.holds).leads_after
  | classifySlot slot fallback => exact (Classify.ensures_classifySlot hc slot fallback).leads_after
  | parameter f => exact (Classify.ensures_buildParameter hc f).leads_after
  | request identity operation =>
    exact (Classify.ensures_buildRequest hc identity operation).leads_after
  | partsRequest identity operation parts =>
    exact (Classify.ensures_buildPartsRequest hc identity operation parts).leads_after
  | servers operation item => exact h.leads_registered operation item
  | visit separator seen v => exact h.leads_visit separator seen v
  | components =>
    have hx : Classify.Ensures doc [] d.progress (Classify.classifyComponents doc) _ True :=
      Classify.ensures_classifyComponents hc
    exact hx.leads_after

namespace Classify

variable {doc : Document} {p : Progress} {f : Fragment}

theorem classify_of_done {id : SchemaId} (h : p.memo.get? f.path = some (.done id)) (name : String) :
    classify doc name f p = .ok id p := by
  have hget : (get : Classify Progress) p = .ok p p := rfl
  rw [classify, classifyWithin, run_bind_ok hget, h]
  rfl

theorem classify_of_failed (h : p.memo.get? f.path = some .failed) (name : String) :
    classify doc name f p = .error (.rejectedBefore name) p := by
  have hget : (get : Classify Progress) p = .ok p p := rfl
  rw [classify, classifyWithin, run_bind_ok hget, h]
  rfl

end Classify

/-- The later progress keeps what the earlier knew, and answers from it. -/
structure Progress.Keeps (doc : Document) (p p' : Progress) : Prop extends p.Extends p' where
  /-- A node that was done has the same id, and nothing else happens. -/
  done : ∀ name (f : Fragment) id, p.memo.get? f.path = some (.done id) →
    Classify.classify doc name f p' = .ok id p'
  /-- A node that had failed is rejected, and nothing else happens. -/
  failed : ∀ name (f : Fragment), p.memo.get? f.path = some .failed →
    Classify.classify doc name f p' = .error (.rejectedBefore name) p'

namespace Document

theorem extends_after (doc : Document) (steps more : List (Step doc)) :
    (doc.after steps).progress.Extends (doc.after (steps ++ more)).progress := by
  have hrun : (doc.after (steps ++ more)).Sound doc ∧
      (doc.after steps).progress.Extends (doc.after (steps ++ more)).progress := by
    rw [after_append]
    refine List.foldlRecOn (motive := fun d : Draft =>
      d.Sound doc ∧ (doc.after steps).progress.Extends d.progress) more _ ?_ fun d h s _ => ?_
    · exact ⟨doc.sound_after steps, .refl _⟩
    · exact ⟨s.sound_run h.1, h.2.trans (s.leads_run h.1).toExtends⟩
  exact hrun.2

/-- Whatever steps follow, and whatever becomes of them, what was known before is kept. -/
theorem keeps_after (doc : Document) (steps more : List (Step doc)) :
    (doc.after steps).progress.Keeps doc (doc.after (steps ++ more)).progress where
  toExtends := doc.extends_after steps more
  done name f _ h := Classify.classify_of_done ((doc.extends_after steps more).entry f.path _ h) name
  failed name f h := Classify.classify_of_failed ((doc.extends_after steps more).entry f.path _ h) name

end Document

end ApiModel

import ApiModel.Proofs.Termination

/-!
# What goes with the ledger

Whether a change of one node keeps an `X` may depend on the slots and the memory of the others, as where
`X` is about schemas of nodes that are done. So `X` is carried together with the ledger, and with what the
memory knew when the node was begun, by which its slot is known at the end (`Tracked`).

`Tracks doc X Y`: each change that a classification makes keeps `X`, if a node is completed only with a
schema of which `Y` holds; and this holds of what is built.
-/

namespace ApiModel

open Progress (Ledger RememberedBy)

variable {doc : Document} {X : Progress → Prop} {Y : Fragment → Schema → Progress → Prop}
  {i : List Path × Progress} {p q : Progress} {f : Fragment}

namespace Progress

/-- The nodes of the first are in progress, and nothing that the second knew is forgotten. -/
structure Tracked (X : Progress → Prop) (i : List Path × Progress) (p : Progress) : Prop where
  ledger : p.Ledger i.1
  remembers : i.2.RememberedBy p
  holds : X p

theorem Ledger.add {stack : List Path} (h : p.Ledger stack) (s : Schema) (any? : Option SchemaId) :
    Ledger stack { p with catalog := p.catalog.add s, anyId := any? } :=
  h.of_slots rfl rfl rfl (by simp [Catalog.size_slots_add]) fun id hid => by
    simp only [Catalog.get?_add, if_neg (Catalog.ne_nextId (h.lt_size id hid))]

/-- The node that was begun first is the one in progress, in the slot that it took. -/
theorem Tracked.inProgress {stack : List Path} {path : Path}
    (h : p.Tracked X (path :: stack, q.begin path)) :
    p.memo.get? path = some (.inProgress q.catalog.nextId) := by
  obtain ⟨id, hi⟩ := (h.ledger.mem_stack path).mp (List.mem_cons_self ..)
  have hr : (path, q.catalog.nextId) ∈ p.reserved := h.remembers.log.subset (List.mem_cons_self ..)
  rw [hi, h.ledger.slot_of_reserved hr (h.ledger.mem_reserved (idOf?_of_inProgress hi))]

end Progress

open Progress (Tracked)

structure Tracks (doc : Document) (X : Progress → Prop) (Y : Fragment → Schema → Progress → Prop) :
    Prop where
  report : ∀ {p} d, X p → X (p.report d)
  add : ∀ {stack p} s any?, p.Ledger stack → ¬ s.IsForm → X p →
    X { p with catalog := p.catalog.add s, anyId := any? }
  begin : ∀ {stack p path}, p.Ledger stack → p.memo.get? path = none → X p → X (p.begin path)
  complete : ∀ {stack p f id s}, p.Ledger stack → doc.Holds f →
    p.memo.get? f.path = some (.inProgress id) → Y f s p → X p → X (p.complete f.path id s)
  abandon : ∀ {stack p path id}, p.Ledger stack → p.memo.get? path = some (.inProgress id) → X p →
    X (p.abandon path id)
  build : ∀ {visit f name i p s p'}, Classify.Agreeing doc (Tracked X i) visit visit →
    Tracked X i p → Classify.build doc visit name f p = .ok s p' → Y f s p'

namespace Tracks

open Classify (Preserves Agreeing AdmitsSchemas after)

variable (ht : Tracks doc X Y)

include ht

theorem tracked_report (h : p.Tracked X i) (d : Diagnostic) : (p.report d).Tracked X i :=
  ⟨h.ledger.of_slots rfl rfl rfl (Nat.le_refl _) fun _ _ => rfl, h.remembers.of_eq rfl rfl,
    ht.report d h.holds⟩

theorem admits : AdmitsSchemas (Tracked X i) :=
  fun _ s any? hs h =>
    ⟨h.ledger.add s any?, h.remembers.of_eq rfl rfl, ht.add s any? h.ledger hs h.holds⟩

theorem agreeing {visit : Classify.Classifier}
    (hv : ∀ name g, doc.Holds g → Preserves (Tracked X i) (visit name g)) :
    Agreeing doc (Tracked X i) visit visit where
  report _ d _ h := ht.tracked_report h d
  any := ht.admits.anySchema
  visit name g hg := (hv name g hg).agree

theorem preserves_classifyWithin (stack : List Path) (i : List Path × Progress) (name : String)
    (hf : doc.Holds f) : Preserves (Tracked X i) (Classify.classifyWithin doc stack name f) := by
  refine Classify.preserves_classifyWithin_of_build (fun visit name f hf hv i p h hn => ?_) stack i
    name hf
  -- Below the node, what must not be forgotten is the progress in which its slot was just taken, so the
  -- slot is known when the schema is there.
  have hbegin : (p.begin f.path).Tracked X (f.path :: i.1, p.begin f.path) :=
    ⟨h.ledger.begin hn, .refl _, ht.begin h.ledger hn h.holds⟩
  have hbuilt := (Classify.agree_build (f := f) ht.admits (fun _ d _ h => ht.tracked_report h d)
    (ht.agreeing (hv (f.path :: i.1, p.begin f.path))) name).preserves _ hbegin
  have hfree := h.ledger.not_mem_stack hn
  have hsince := h.remembers.trans (.begin p f.path)
  unfold after Classify.inSlot
  dsimp only
  cases hrun : Classify.build doc visit name f (p.begin f.path) with
  | ok s p' =>
    rw [Classify.after_of_ok hrun] at hbuilt
    have hY := ht.build (ht.agreeing (hv _)) hbegin hrun
    exact ⟨hbuilt.ledger.complete hfree hbuilt.inProgress s,
      (hsince.trans hbuilt.remembers).trans (.complete p' _ _ _),
      ht.complete hbuilt.ledger hf hbuilt.inProgress hY hbuilt.holds⟩
  | error r p' =>
    rw [Classify.after_of_error hrun] at hbuilt
    exact ⟨hbuilt.ledger.abandon hfree hbuilt.inProgress,
      (hsince.trans hbuilt.remembers).trans (.abandon p' _ _),
      ht.abandon hbuilt.ledger hbuilt.inProgress hbuilt.holds⟩

theorem preserves_classifySlot (i : List Path × Progress) (slot : Path) (fallback : String) :
    Preserves (Tracked X i) (Classify.classifySlot doc slot fallback) :=
  (Classify.agree_visitSlot (ht.agreeing fun name _ hg => ht.preserves_classifyWithin [] i name hg) slot
    fallback).preserves

theorem reads (i : List Path × Progress) : Classify.PreservingReads doc (Tracked X i) where
  report _ d _ h := ht.tracked_report h d
  classifySlot := ht.preserves_classifySlot i

/-- Where forms do no harm either, `X` holds after any steps. -/
theorem steps (hform : ∀ {p} s any?, p.Ledger [] → X p →
      X { p with catalog := p.catalog.add s, anyId := any? }) :
    PreservingSteps doc (Tracked X ([], {})) where
  toPreservingReads := ht.reads _
  gather _ _ _ _ p' _ _ h :=
    ⟨h.ledger.add _ p'.anyId, h.remembers.of_eq rfl rfl, hform _ p'.anyId h.ledger h.holds⟩
  declare p name v h := by
    unfold ServerVariable.declare
    dsimp only
    have hone := h.ledger.add (ServerVariable.textSchema name
      (v.description ServerVariable.missingDescription)) p.anyId
    have hX := hform (ServerVariable.textSchema name
      (v.description ServerVariable.missingDescription)) p.anyId h.ledger h.holds
    split
    · exact ⟨hone, h.remembers.of_eq rfl rfl, hX⟩
    · exact ⟨hone.add _ p.anyId, h.remembers.of_eq rfl rfl, hform _ p.anyId hone hX⟩
  say _ d _ _ h := ht.tracked_report h d
  classify name f := ht.preserves_classifyWithin [] _ name f.holds

end Tracks

end ApiModel

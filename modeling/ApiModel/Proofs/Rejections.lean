import ApiModel.Proofs.Tracking

/-!
# Rejected operations

All that may fail comes before anything is written to the groups or the servers, and the object that
gathers the fields of a form is stored when all of them are built. So an operation that is rejected leaves
what was classified for it, and what was said, and nothing else (`LeavesNoTrace`). That its identity is free is
asked first, and nothing is added to the groups until the operation is, so adding it does not fail
(`Adds`).
-/

namespace ApiModel

/-- The slot holds an object that gathers the fields of a form under a name: no node took it. -/
structure Progress.FormAt (p : Progress) (name : String) (id : SchemaId) : Prop where
  stored : ∃ fields, p.catalog.get? id = some (.undescribed (name ++ "Body") (.object fields none none))
  free : id ∉ p.reserved.map (·.2)

/-- All forms were there before. -/
def Progress.AddsNoForm (q p : Progress) : Prop := ∀ name id, p.FormAt name id → q.FormAt name id

namespace Classify

open Progress (AddsNoForm Tracked)

variable {doc : Document} {f : Fragment} {α β : Type} {x : Classify α} {I : Progress → Prop}

theorem tracks_addsNoForm (doc : Document) (q : Progress) :
    Tracks doc q.AddsNoForm fun _ _ _ => True where
  report d h name id hf := h name id ⟨hf.stored, hf.free⟩
  add {_ p} s any? _ hs h name id hf := by
    obtain ⟨fields, hstored⟩ := hf.stored
    simp only [Catalog.get?_add] at hstored
    split at hstored
    · exact absurd ⟨name, fields, Option.some.inj hstored⟩ hs
    · exact h name id ⟨⟨fields, hstored⟩, hf.free⟩
  begin {_ p path} _ _ h name id hf := by
    obtain ⟨fields, hstored⟩ := hf.stored
    rw [Progress.get?_catalog_begin] at hstored
    exact h name id ⟨⟨fields, hstored⟩, fun hm => hf.free (List.mem_cons_of_mem _ hm)⟩
  complete {_ p f id s} hl _ hi _ h name id' hf := by
    have hid := Progress.idOf?_of_inProgress hi
    have hne : id' ≠ id := by
      rintro rfl
      exact hf.free (List.mem_map.mpr ⟨_, hl.mem_reserved hid, rfl⟩)
    obtain ⟨fields, hstored⟩ := hf.stored
    rw [Progress.get?_catalog_complete _ _ _ (hl.lt_size_of_idOf? hid), if_neg hne] at hstored
    exact h name id' ⟨⟨fields, hstored⟩, hf.free⟩
  abandon _ _ h name id hf := by
    obtain ⟨fields, hstored⟩ := hf.stored
    exact h name id ⟨⟨fields, (Progress.get?_catalog_abandon_eq_some_iff.mp hstored).1⟩, hf.free⟩
  build _ _ _ := trivial

/-- If the step rejects its node, `I` still holds of what it leaves behind. -/
def KeepsOnError (I : Progress → Prop) (x : Classify α) : Prop :=
  ∀ p r p', I p → x p = .error r p' → I p'

theorem Preserves.onError (hx : Preserves I x) : KeepsOnError I x := by
  intro p r p' hp hrun
  have hp' := hx p hp
  rwa [after_of_error hrun] at hp'

namespace KeepsOnError

theorem of_ok (h : ∀ p, ∃ a p', x p = .ok a p') : KeepsOnError I x := by
  intro p r p' _ hrun
  obtain ⟨a, q, hok⟩ := h p
  cases hrun.symm.trans hok

theorem bind {g : α → Classify β} (hx : Preserves I x) (hg : ∀ a, KeepsOnError I (g a)) :
    KeepsOnError I (x >>= g) := by
  intro p r p' hp hrun
  have hp' := hx p hp
  cases hrun' : x p with
  | ok a q =>
    rw [after_of_ok hrun'] at hp'
    rw [run_bind_ok hrun'] at hrun
    exact hg a q r p' hp' hrun
  | error r' q =>
    rw [after_of_error hrun'] at hp'
    rw [run_bind_error hrun'] at hrun
    cases hrun
    exact hp'

/-- After the last step that may fail `I` need not hold. -/
theorem map (hx : KeepsOnError I x) (g : α → β) : KeepsOnError I (g <$> x) := by
  intro p r p' hp hrun
  rw [← bind_pure_comp] at hrun
  cases hrun' : x p with
  | ok a q =>
    rw [run_bind_ok hrun'] at hrun
    cases hrun
  | error r' q =>
    rw [run_bind_error hrun'] at hrun
    cases hrun
    exact hx p r p' hp hrun'

end KeepsOnError

section

variable (hs : PreservingReads doc I)

include hs

theorem keepsOnError_buildFormRequest (identity : Identity) (operation : Json)
    (parts : List Fragment) : KeepsOnError I (buildFormRequest doc identity operation parts) := by
  have hget : Preserves I (get : Classify Progress) := .of_eq fun _ => rfl
  unfold buildFormRequest
  refine .bind (preserves_buildFields hs parts) fun fields => .bind hget fun q => ?_
  dsimp only
  -- Storing the object does not preserve `I`, but it is the last step and cannot fail.
  have gathered : ∀ mediaType, KeepsOnError I
      (addSchema (.undescribed (identity.joined ++ "Body")
        (.object (fields.map fieldProperty) none none)) >>= fun schema =>
          pure (⟨mediaType, .parameter (formParameter operation fields schema)⟩ : Request)) :=
    fun _ => .of_ok fun _ => ⟨_, _, rfl⟩
  split
  · split
    · exact (Preserves.pure _).onError
    · exact gathered _
  · exact gathered _

theorem keepsOnError_buildPartsRequest (identity : Identity) (operation : Json)
    (parts : List Fragment) : KeepsOnError I (buildPartsRequest doc identity operation parts) := by
  unfold buildPartsRequest
  split
  · exact (Preserves.pure _).onError
  · split
    · exact (preserves_buildBodyRequest hs _ _).onError.map _
    · exact (keepsOnError_buildFormRequest hs _ _ _).map _

theorem keepsOnError_buildOperation (separator : Char) (groups : Groups) (e : Endpoint)
    (hduplicate : ∀ p d, d.code = .duplicateOperation → I p → I (p.report d)) :
    KeepsOnError I (buildOperation doc separator groups e.method e.key e.item e.operation) := by
  unfold buildOperation
  dsimp only
  cases hfound : Identity.ofOperation e.method e.key e.operation.value e.operation.pointer separator with
  | mk identity said =>
    have hsaid : ∀ d ∈ said, Preserves I (report d) := fun d hd =>
      preserves_report fun p => hs.report p d (by
        rw [Identity.code_of_mem_said (d := d) (by rw [hfound]; exact hd)]; rfl)
    refine .bind (preserves_forM hsaid) fun _ => ?_
    dsimp only
    split
    · have hcode : ∀ d : Diagnostic,
          (Rejection.duplicateOperation identity.group identity.member).code? = some d.code →
            d.code = .duplicateOperation :=
        fun d hd => (Option.some.inj hd).symm
      have hreject : Preserves I (reject (.duplicateOperation identity.group identity.member)
          e.operation.pointer : Classify (String × Operation)) :=
        preserves_reject (fun p d hd => hduplicate p d (hcode d hd)) _
      exact hreject.onError
    · refine .bind (preserves_mergedParameters hs e.item e.operation) fun merged => ?_
      refine .bind (preserves_buildParameters hs _) fun parameters => ?_
      refine .bind (preserves_buildRequest hs identity e.operation) fun r? => ?_
      cases r? with
      | some r => exact .of_ok fun _ => ⟨_, _, rfl⟩
      | none =>
        dsimp only
        rw [bind_pure_comp]
        exact (keepsOnError_buildPartsRequest hs identity _ _).map _

end

end Classify

/-! ### Adding an operation -/

namespace Draft

variable {doc : Document} {separator : Char} {d : Draft} {e : Endpoint}

/-- What an operation that is rejected leaves behind. -/
structure LeavesNoTrace (d d' : Draft) : Prop where
  groups : d'.groups = d.groups
  servers : d'.servers = d.servers
  /-- Slots that were there hold what they held, and the memory knows what it knew. -/
  kept : d.progress.Extends d'.progress
  forms : d.progress.AddsNoForm d'.progress
  said : 0 < Diagnostic.errorCount d'.progress.diagnostics.toList

/-- The operation was built and had a place among the groups, with the servers that were registered for
it. -/
def Adds (doc : Document) (separator : Char) (e : Endpoint) (d d' : Draft) : Prop :=
  ∃ group op p, Classify.buildOperation doc separator d.groups e.method e.key e.item e.operation
      d.progress = .ok (group, op) p ∧
    d.groups.add? group { op with
      servers := (d.servers.ofOperation e.operation.value e.item.value doc.root p.catalog).1 } =
        some d'.groups

theorem Sound.outcome_addOperation (h : d.Sound doc) (ha : d.progress.Accounted) (separator : Char)
    (e : Endpoint) :
    match Draft.addOperation doc separator e.method e.key e.item e.operation d with
    | (.error _, d') => d.LeavesNoTrace d'
    | (.ok _, d') => d.Adds doc separator e d' := by
  have hens := Classify.ensures_buildOperation h.coherent separator d.groups e.method e.key e.item
    e.operation
  have hsaid := @Classify.discloses_buildOperation doc separator d.groups e d.progress ha
  have htracks := Classify.tracks_addsNoForm doc d.progress
  have hforms := Classify.keepsOnError_buildOperation (htracks.reads ([], d.progress)) separator
    d.groups e fun _ d _ hp => htracks.tracked_report hp d
  unfold Classify.Ensures at hens
  unfold Draft.addOperation
  cases hrun : Classify.buildOperation doc separator d.groups e.method e.key e.item e.operation
    d.progress with
  | error r p =>
    rw [hrun] at hens hsaid
    have hstart : d.progress.Tracked d.progress.AddsNoForm ([], d.progress) :=
      ⟨h.coherent.toLedger, .refl _, fun _ _ hf => hf⟩
    exact ⟨rfl, rfl, hens.1.toExtends, (hforms _ r p hstart hrun).holds,
      Nat.pos_of_ne_zero hsaid.2.1⟩
  | ok o p =>
    obtain ⟨group, op⟩ := o
    obtain ⟨hdescribes, hfree⟩ := Classify.describes_of_buildOperation hrun
    rw [← hdescribes.identity] at hfree
    -- The groups are still those in which the identity was found to be free.
    let served : Operation := { op with
      servers := (d.servers.ofOperation e.operation.value e.item.value doc.root p.catalog).1 }
    obtain ⟨groups, hadd⟩ : ∃ gs, d.groups.add? group served = some gs := Groups.exists_add? hfree
    refine ⟨group, op, p, hrun, hadd.trans (congrArg some ?_)⟩
    exact (congrArg (·.getD d.groups) hadd).symm

end Draft

/-- After any steps, an operation that is rejected leaves no trace but what was said and classified, and
one that is not rejected is added. -/
theorem Document.outcome_of_operation (doc : Document) (steps : List (Step doc)) (separator : Char)
    (e : Endpoint) :
    match Draft.addOperation doc separator e.method e.key e.item e.operation (doc.after steps) with
    | (.error _, d') => (doc.after steps).LeavesNoTrace d'
    | (.ok _, d') => (doc.after steps).Adds doc separator e d' :=
  (doc.sound_after steps).outcome_addOperation (doc.accounted_after steps) separator e

end ApiModel

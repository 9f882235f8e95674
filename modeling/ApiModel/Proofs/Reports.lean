import ApiModel.Proofs.Ensures

/-!
# What a classification reports

A step that comes to something reports warnings only. A step that rejects its node reports the cause
where it is found, and the steps around it pass the cause on without another word, so it is reported
once and last. The one cause that is not reported is that a node had failed before (`Fails`).

`Reports stack x` says this of a step `x` while the nodes of the stack are in the memory.
-/

namespace ApiModel

namespace Progress

variable {p p' q : Progress} {r : Rejection}

/-- Only warnings were added, and no node has failed since. -/
structure Quiet (p p' : Progress) : Prop where
  said : ∃ ds, p'.diagnostics.toList = p.diagnostics.toList ++ ds ∧ Diagnostic.errorCount ds = 0
  known : ∀ path, (p.memo.get? path).isSome → (p'.memo.get? path).isSome
  failed : ∀ path, p'.memo.get? path = some .failed → p.memo.get? path = some .failed

/-- After some warnings the cause was reported, or else a node had failed before. -/
structure Fails (p : Progress) (r : Rejection) (p' : Progress) : Prop where
  said : ∃ ds source, p'.diagnostics.toList = p.diagnostics.toList ++ ds ++ r.diagnostics source ∧
    Diagnostic.errorCount ds = 0
  before : r.code? = none → ∃ path, p.memo.get? path = some .failed
  not_duplicate : r.code? ≠ some .duplicateOperation

theorem Quiet.of_eq (hd : p'.diagnostics = p.diagnostics) (hm : p'.memo = p.memo) : p.Quiet p' :=
  ⟨⟨[], by simp [hd], rfl⟩, fun _ h => hm ▸ h, fun _ h => hm ▸ h⟩

theorem Quiet.trans (h : p.Quiet p') (h' : p'.Quiet q) : p.Quiet q := by
  obtain ⟨ds, hds, hn⟩ := h.said
  obtain ⟨ds', hds', hn'⟩ := h'.said
  refine ⟨⟨ds ++ ds', by rw [hds', hds, List.append_assoc], ?_⟩,
    fun path hs => h'.known path (h.known path hs), fun path hs => h.failed path (h'.failed path hs)⟩
  rw [Diagnostic.errorCount, List.countP_append]
  exact Nat.add_eq_zero_iff.mpr ⟨hn, hn'⟩

theorem Quiet.fails (h : p.Quiet p') (h' : p'.Fails r q) : p.Fails r q := by
  obtain ⟨ds, hds, hn⟩ := h.said
  obtain ⟨ds', source, hds', hn'⟩ := h'.said
  refine ⟨⟨ds ++ ds', source, by rw [hds', hds]; simp, ?_⟩, fun hr => ?_, h'.not_duplicate⟩
  · rw [Diagnostic.errorCount, List.countP_append]
    exact Nat.add_eq_zero_iff.mpr ⟨hn, hn'⟩
  · obtain ⟨path, hf⟩ := h'.before hr
    exact ⟨path, h.failed path hf⟩

/-- The memory knows all these nodes. -/
def Knows (p : Progress) (stack : List Path) : Prop := ∀ path ∈ stack, (p.memo.get? path).isSome

theorem Quiet.knows (h : p.Quiet p') {stack : List Path} (hk : p.Knows stack) : p'.Knows stack :=
  fun path hm => h.known path (hk path hm)

theorem Knows.begin {stack : List Path} (h : p.Knows stack) (path : Path) :
    (p.begin path).Knows (path :: stack) := by
  intro path' hm
  rw [get?_memo_begin]
  split
  · rfl
  · rename_i hne
    exact h path' ((List.mem_cons.mp hm).resolve_left (Ne.symm hne))

theorem failed_of_begin {path path' : Path} (h : (p.begin path).memo.get? path' = some .failed) :
    p.memo.get? path' = some .failed := by
  rw [get?_memo_begin] at h
  split at h
  · cases h
  · exact h

end Progress

namespace Classify

variable {doc : Document} {stack : List Path} {α β : Type} {x : Classify α}

def Reports (stack : List Path) (x : Classify α) : Prop :=
  ∀ p : Progress, p.Knows stack →
    match x p with
    | .ok _ p' => p.Quiet p'
    | .error r p' => p.Fails r p'

namespace Reports

theorem of_ok (h : ∀ p, ∃ a p', x p = .ok a p' ∧ p.Quiet p') : Reports stack x := by
  intro p _
  obtain ⟨a, p', hx, hq⟩ := h p
  simp only [hx]
  exact hq

theorem pure (a : α) : Reports stack (Pure.pure a : Classify α) :=
  .of_ok fun p => ⟨a, p, rfl, .of_eq rfl rfl⟩

theorem bind {f : α → Classify β} (hx : Reports stack x) (hf : ∀ a, Reports stack (f a)) :
    Reports stack (x >>= f) := by
  intro p hk
  have hx := hx p hk
  cases hrun : x p with
  | error r p' =>
    rw [hrun] at hx
    rw [run_bind_error hrun]
    exact hx
  | ok a p' =>
    rw [hrun] at hx
    have hf := hf a p' (hx.knows hk)
    rw [run_bind_ok hrun]
    cases hrun' : f a p' with
    | ok b q => rw [hrun'] at hf; exact hx.trans hf
    | error r q => rw [hrun'] at hf; exact hx.fails hf

theorem map (hx : Reports stack x) (f : α → β) : Reports stack (f <$> x) := by
  have hrun : f <$> x = x >>= fun a => Pure.pure (f a) := (bind_pure_comp f x).symm
  rw [hrun]
  exact hx.bind fun a => .pure (f a)

end Reports

theorem reports_report {d : Diagnostic} (h : d.isError = false) : Reports stack (report d) := by
  refine .of_ok fun p => ⟨(), p.report d, rfl, ⟨[d], Array.toList_push, ?_⟩, fun _ h => h,
    fun _ h => h⟩
  simp [Diagnostic.errorCount, h]

theorem reports_reject {r : Rejection} {c : Code} (hr : r.code? = some c)
    (hc : c ≠ .duplicateOperation) (source : String) : Reports stack (reject r source : Classify α) := by
  intro p _
  refine ⟨⟨[], source, ?_, rfl⟩, fun hn => ?_, fun hd => ?_⟩
  · rw [Progress.diagnostics_foldl_report, List.append_nil]
  · rw [hr] at hn; cases hn
  · rw [hr] at hd; cases hd; exact hc rfl

theorem reports_addSchema (s : Schema) : Reports stack (addSchema s) :=
  .of_ok fun _ => ⟨_, _, rfl, .of_eq rfl rfl⟩

theorem reports_anySchema : Reports stack anySchema := by
  refine .of_ok fun _ => ?_
  unfold anySchema
  split
  · exact ⟨_, _, rfl, .of_eq rfl rfl⟩
  · exact ⟨_, _, rfl, .of_eq rfl rfl⟩

theorem reports_inSlot {path : Path} {build : Classify Schema} (hb : Reports (path :: stack) build) :
    Reports stack (inSlot path build) := by
  intro p hk
  have hb := hb (p.begin path) (hk.begin path)
  unfold inSlot
  cases hrun : build (p.begin path) with
  | ok s p' =>
    rw [hrun] at hb
    refine ⟨hb.said, fun path' hs => ?_, fun path' hf => ?_⟩
    · rw [Progress.get?_memo_complete]
      split
      · rfl
      · rename_i hne
        refine hb.known path' ?_
        rwa [Progress.get?_memo_begin, if_neg hne]
    · rw [Progress.get?_memo_complete] at hf
      split at hf
      · cases hf
      · exact Progress.failed_of_begin (hb.failed path' hf)
  | error r p' =>
    rw [hrun] at hb
    refine ⟨hb.said, fun hr => ?_, hb.not_duplicate⟩
    obtain ⟨path', hf⟩ := hb.before hr
    exact ⟨path', Progress.failed_of_begin hf⟩

/-! ### What is made of nodes -/

section

variable {visit : Classifier} {f : Fragment}
  (hv : ∀ name f, doc.Holds f → Reports stack (visit name f))

include hv in
theorem reports_visitSlot (slot : Path) (fallback : String) :
    Reports stack (visitSlot doc visit slot fallback) := by
  unfold visitSlot
  split
  · rename_i r hr
    exact reports_reject (Document.code?_of_resolve hr) (by decide) _
  · exact .pure _
  · rename_i target ht
    exact (hv _ _ (Document.holds_of_resolve ht)).map _

include hv in
theorem reports_visitItems (name : String) (i : Nat) (slots : List Path) :
    Reports stack (visitItems doc visit name i slots) := by
  induction slots generalizing i with
  | nil => exact .pure _
  | cons slot slots ih =>
    unfold visitItems
    exact (reports_visitSlot hv slot _).bind fun _ => (ih (i + 1)).bind fun _ => .pure _

include hv in
theorem reports_visitMembers (name key : String) :
    Reports stack (visitMembers doc visit name f key) :=
  reports_visitItems hv _ _ _

include hv in
theorem reports_visitProperties (name : String) (required : List String)
    (entries : List (String × Path)) :
    Reports stack (visitProperties doc visit name required entries) := by
  induction entries with
  | nil => exact .pure _
  | cons entry entries ih =>
    obtain ⟨key, slot⟩ := entry
    unfold visitProperties
    split
    · rename_i r hr
      exact reports_reject (Document.code?_of_resolve hr) (by decide) _
    · exact ih
    · rename_i target ht
      exact (hv _ _ (Document.holds_of_resolve ht)).bind fun _ => ih.bind fun _ => .pure _

include hv in
theorem reports_visitSection (name : String) (s : Section) :
    Reports stack (visitSection doc visit name f s) := by
  unfold visitSection
  cases s with
  | properties =>
    dsimp only
    split
    · exact (reports_visitProperties hv _ _ _).bind fun _ => .pure _
    · exact .pure _
  | additionalProperties =>
    dsimp only
    split
    · exact .pure _
    · exact reports_anySchema.bind fun _ => .pure _
    · exact (reports_visitSlot hv _ _).bind fun _ => .pure _
  | anyOf | oneOf =>
    dsimp only
    split
    · exact (reports_visitMembers hv _ _).bind fun _ => .pure _
    · exact .pure _

include hv in
theorem reports_visitSections (name : String) (sections : List Section) :
    Reports stack (visitSections doc visit name f sections) := by
  induction sections with
  | nil => exact .pure _
  | cons s sections ih =>
    unfold visitSections
    exact (reports_visitSection hv name s).bind fun _ => ih.bind fun _ => .pure _

theorem reports_addParts (name : String) (parts : List (Section × Schema.Kind)) :
    Reports stack (addParts name parts) := by
  induction parts with
  | nil => exact .pure _
  | cons part parts ih =>
    unfold addParts
    exact (reports_addSchema _).bind fun _ => ih.bind fun _ => .pure _

theorem reports_assemble (name : String) (parents : List SchemaId)
    (parts : List (Section × Schema.Kind)) : Reports stack (assemble name f parents parts) := by
  unfold assemble
  split
  · exact (reports_report rfl).bind fun _ => .pure _
  · exact .pure _
  · exact (reports_addParts name parts).bind fun _ => .pure _

include hv in
theorem reports_buildObject (name : String) : Reports stack (buildObject doc visit name f) := by
  unfold buildObject
  split
  · exact reports_reject rfl (by decide) _
  · refine (reports_visitMembers hv name _).bind fun parents => ?_
    exact (reports_visitSections hv name _).bind fun parts => reports_assemble name parents parts

include hv in
theorem reports_buildArray (name : String) : Reports stack (buildArray doc visit name f) := by
  unfold buildArray
  refine (reports_visitSlot hv _ _).bind fun id? => ?_
  cases id? with
  | none => exact reports_reject rfl (by decide) _
  | some id => exact .pure _

theorem reports_buildChoice (name : String) (v : Json) : Reports stack (buildChoice name v) := by
  unfold buildChoice
  dsimp only
  split
  · exact (reports_addSchema _).bind fun _ => .pure _
  · exact reports_anySchema.bind fun _ => .pure _

include hv in
theorem reports_build (name : String) : Reports stack (build doc visit name f) := by
  have hreport : Reports stack
      (f.value.correction?.forM fun c => report (c.diagnostic name f.pointer)) := by
    cases f.value.correction? with
    | none => exact .pure _
    | some c => exact reports_report rfl
  unfold build
  refine hreport.bind fun _ => ?_
  cases f.value.form with
  | choice => exact reports_buildChoice name _
  | plain kind => exact .pure _
  | array => exact reports_buildArray hv name
  | object => exact reports_buildObject hv name
  | untyped | unknownType | unknownFormat => exact reports_reject rfl (by decide) _

end

theorem reports_classifyWithin (stack : List Path) (name : String) {f : Fragment}
    (hf : doc.Holds f) : Reports stack (classifyWithin doc stack name f) := by
  induction hn : doc.unseen stack using Nat.strongRecOn generalizing stack name f with
  | ind n ih =>
    intro p hk
    have hat : doc.at? f.path = some f.value := hf
    rw [classifyWithin_apply]
    rcases hm : p.memo.get? f.path with - | (id | id | -)
    · -- A node that is not in the memory is not on the stack, so it is not refused.
      have hs : f.path ∉ stack := fun hmem => by simpa [hm] using hk f.path hmem
      have hlt := hn ▸ Document.unseen_cons_lt hat hs
      have hb := reports_build (f := f) (fun name g hg => ih _ hlt (f.path :: stack) name hg rfl) name
      dsimp only
      rw [if_pos ⟨by rw [hat]; rfl, hs⟩]
      exact reports_inSlot hb p hk
    · exact Progress.Quiet.of_eq rfl rfl
    · exact Progress.Quiet.of_eq rfl rfl
    · exact ⟨⟨[], "", by simp [Rejection.diagnostics, Rejection.code?], rfl⟩, fun _ => ⟨f.path, hm⟩,
        by simp [Rejection.code?]⟩

theorem reports_classify (doc : Document) (name : String) {f : Fragment} (hf : doc.Holds f) :
    Reports [] (classify doc name f) :=
  reports_classifyWithin [] name hf

theorem reports_classifySlot (doc : Document) (slot : Path) (fallback : String) :
    Reports [] (classifySlot doc slot fallback) :=
  reports_visitSlot (fun name _ hf => reports_classify doc name hf) slot fallback

end Classify

end ApiModel

import ApiModel.Proofs.Abandon

/-!
# What a step ensures

`Ensures doc stack p x Q E`: from `p` the step `x` ends in a coherent state that extends `p`; `Q` holds
of its result there, and `E` holds if it rejects its node. Steps are put together by `Ensures.bind`, so
that what is known of a result has to be carried on only along `Extends`.
-/

namespace ApiModel

namespace Progress

variable {doc : Document} {stack : List Path} {p p' p'' : Progress}

/-- A later state with the same nodes in progress. -/
structure Leads (doc : Document) (stack : List Path) (p p' : Progress) : Prop
    extends p.Extends p' where
  coherent : p'.Coherent doc stack

theorem Coherent.leads (h : p.Coherent doc stack) : p.Leads doc stack p := ⟨.refl p, h⟩

theorem Leads.trans (h : p.Leads doc stack p') (h' : p'.Leads doc stack p'') :
    p.Leads doc stack p'' :=
  ⟨h.toExtends.trans h'.toExtends, h'.coherent⟩

theorem Coherent.leads_add (h : p.Coherent doc stack) {s : Schema}
    (hs : Synthesized s) (hk : s.kind ≠ .any) (hr : ∀ r ∈ s.references, p.Fills r) :
    p.Leads doc stack { p with catalog := p.catalog.add s } :=
  ⟨.add p s fun _ h => h, h.add hs hr (fun _ h => h) (fun _ h => .inl h) fun hany => absurd hany hk⟩

end Progress

namespace Classify

variable {doc : Document} {stack : List Path} {p p' : Progress} {α β : Type} {x : Classify α}
  {Q Q' : α → Progress → Prop} {R : β → Progress → Prop} {E E' : Prop}

def Ensures (doc : Document) (stack : List Path) (p : Progress) (x : Classify α)
    (Q : α → Progress → Prop) (E : Prop) : Prop :=
  match x p with
  | .ok a p' => p.Leads doc stack p' ∧ Q a p'
  | .error _ p' => p.Leads doc stack p' ∧ E

/-- What becomes of a node, by what the memory knows of it. -/
theorem classifyWithin_apply (doc : Document) (stack : List Path) (name : String) (f : Fragment)
    (p : Progress) :
    classifyWithin doc stack name f p =
      match p.memo.get? f.path with
      | some (.inProgress id) | some (.done id) => .ok id p
      | some .failed => .error (.rejectedBefore name) p
      | none =>
        if (doc.at? f.path).isSome ∧ f.path ∉ stack then
          inSlot f.path (build doc (classifyWithin doc (f.path :: stack)) name f) p
        else .error (.rejectedBefore name) p := by
  have hget : (get : Classify Progress) p = .ok p p := rfl
  rw [classifyWithin, run_bind_ok hget]
  cases p.memo.get? f.path with
  | some e => cases e <;> rfl
  | none =>
    dsimp only
    split <;> rfl

/-- The schema of a node by its form, after what is put right was reported. -/
def buildForm (doc : Document) (visit : Classifier) (name : String) (f : Fragment) : Classify Schema :=
  match f.value.form with
  | .choice => buildChoice name f.value
  | .plain kind => return .describedBy name f.value kind
  | .array => buildArray doc visit name f
  | .object => buildObject doc visit name f
  | .untyped => reject (.untyped name) f.pointer
  | .unknownType type => reject (.unknownType name type) f.pointer
  | .unknownFormat type format => reject (.unknownFormat name type format) f.pointer

theorem build_eq (doc : Document) (visit : Classifier) (name : String) (f : Fragment) :
    build doc visit name f =
      (f.value.correction?.forM fun c => report (c.diagnostic name f.pointer)) >>= fun _ =>
        buildForm doc visit name f :=
  rfl

namespace Ensures

theorem pure {a : α} (h : p.Coherent doc stack) (hQ : Q a p) :
    Ensures doc stack p (Pure.pure a) Q E :=
  ⟨h.leads, hQ⟩

theorem of_leads {y : Classify α} (hl : p.Leads doc stack p') (hy : Ensures doc stack p' y Q E)
    (he : x p = y p') : Ensures doc stack p x Q E := by
  unfold Ensures at hy ⊢
  rw [he]
  split at hy
  · exact ⟨hl.trans hy.1, hy.2⟩
  · exact ⟨hl.trans hy.1, hy.2⟩

theorem mono (hx : Ensures doc stack p x Q E)
    (hQ : ∀ a p', p.Leads doc stack p' → Q a p' → Q' a p') (hE : E → E') :
    Ensures doc stack p x Q' E' := by
  unfold Ensures at hx ⊢
  split at hx
  · exact ⟨hx.1, hQ _ _ hx.1 hx.2⟩
  · exact ⟨hx.1, hE hx.2⟩

theorem monoError (hx : Ensures doc stack p x Q E) (hE : E → E') : Ensures doc stack p x Q E' :=
  hx.mono (fun _ _ _ hQ => hQ) hE

theorem and (hx : Ensures doc stack p x Q E) (hx' : Ensures doc stack p x Q' E') :
    Ensures doc stack p x (fun a p' => Q a p' ∧ Q' a p') (E ∧ E') := by
  unfold Ensures at hx hx' ⊢
  cases hrun : x p with
  | ok a p' | error r p' =>
    rw [hrun] at hx hx'
    exact ⟨hx.1, hx.2, hx'.2⟩

theorem bind {f : α → Classify β} (hx : Ensures doc stack p x Q E)
    (hf : ∀ a p', p.Leads doc stack p' → Q a p' → Ensures doc stack p' (f a) R E) :
    Ensures doc stack p (x >>= f) R E := by
  unfold Ensures at hx
  cases hp : x p with
  | ok a p' =>
    rw [hp] at hx
    exact .of_leads hx.1 (hf a p' hx.1 hx.2) (run_bind_ok hp)
  | error r p' =>
    rw [hp] at hx
    unfold Ensures
    rw [run_bind_error hp]
    exact hx

theorem map {f : α → β} (hx : Ensures doc stack p x Q E)
    (hf : ∀ a p', p.Leads doc stack p' → Q a p' → R (f a) p') :
    Ensures doc stack p (f <$> x) R E := by
  have hrun : f <$> x = x >>= fun a => Pure.pure (f a) := (bind_pure_comp f x).symm
  rw [hrun]
  exact hx.bind fun a p' hl hQ => .pure hl.coherent (hf a p' hl hQ)

end Ensures

theorem ensures_get (h : p.Coherent doc stack) :
    Ensures doc stack p get (fun q p' => q = p') E :=
  ⟨h.leads, rfl⟩

/-- The progress that a step leaves behind. -/
def after (x : Classify α) (p : Progress) : Progress :=
  match x p with
  | .ok _ p' | .error _ p' => p'

theorem Ensures.leads_after (hx : Ensures doc stack p x Q E) : p.Leads doc stack (after x p) := by
  unfold Ensures at hx
  unfold after
  cases hrun : x p with
  | ok a p' | error r p' => rw [hrun] at hx; exact hx.1

/-! ### The steps that change the progress -/

theorem ensures_report (h : p.Coherent doc stack) (d : Diagnostic) :
    Ensures doc stack p (report d) (fun _ _ => True) E :=
  ⟨⟨.report p d, h.report d⟩, trivial⟩

theorem ensures_forM_report (h : p.Coherent doc stack) (ds : List Diagnostic) :
    Ensures doc stack p (ds.forM report) (fun _ _ => True) E := by
  induction ds generalizing p with
  | nil => exact .pure h trivial
  | cons d ds ih => exact (ensures_report h d).bind fun _ p' hl _ => ih hl.coherent

theorem leads_reports (h : p.Coherent doc stack) (ds : List Diagnostic) :
    p.Leads doc stack (ds.foldl Progress.report p) := by
  induction ds generalizing p with
  | nil => exact h.leads
  | cons d ds ih => exact Progress.Leads.trans ⟨.report p d, h.report d⟩ (ih (h.report d))

theorem ensures_reports (h : p.Coherent doc stack) (ds : List Diagnostic) :
    Ensures doc stack p (modify fun p => ds.foldl Progress.report p) (fun _ _ => True) E :=
  ⟨leads_reports h ds, trivial⟩

theorem ensures_reject (h : p.Coherent doc stack) (r : Rejection) (source : String) (hE : E) :
    Ensures doc stack p (reject r source) Q E :=
  ⟨leads_reports h _, hE⟩

theorem ensures_addSchema (h : p.Coherent doc stack) {s : Schema} (hs : Synthesized s)
    (hk : s.kind ≠ .any) (hr : ∀ r ∈ s.references, p.Fills r) :
    Ensures doc stack p (addSchema s) (fun id p' => p'.catalog.get? id = some s) E :=
  ⟨h.leads_add hs hk hr, by simp [Catalog.get?_add]⟩

theorem ensures_anySchema (h : p.Coherent doc stack) :
    Ensures doc stack p anySchema (fun id p' => p'.anyId = some id) E := by
  unfold Ensures anySchema
  cases ha : p.anyId with
  | some id => exact ⟨h.leads, ha⟩
  | none =>
    have hx : ∀ id, p.anyId = some id → some p.catalog.nextId = some id := by simp [ha]
    refine ⟨⟨.add p .anyValue hx, ?_⟩, rfl⟩
    refine h.add .any (fun r hr => by cases hr) hx (fun id hid => ?_) fun _ => rfl
    cases hid
    exact .inr ⟨rfl, rfl⟩

end Classify

end ApiModel

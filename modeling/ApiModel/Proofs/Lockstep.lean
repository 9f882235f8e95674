import ApiModel.Proofs.Ensures
import ApiModel.Proofs.Mirror

/-!
# Two runs in lockstep

A document and one that mirrors it are classified side by side. The second run follows the first: its
states are the same, less the one diagnostic that is excused (`Progress.Follows`). Two steps are in
`Lockstep` if from such states they end the same way, in such states. All steps are; what is excused is
the first thing that is said of the node at `x`, and a node is begun once, so it is said at most once.
-/

namespace ApiModel

variable {x : Path} {r : Respelling}

namespace Progress

variable {p p' : Progress}

/-- The second state is the first, less the diagnostic that is excused. -/
structure Follows (x : Path) (r : Respelling) (p p' : Progress) : Prop where
  same : ∃ ds, p' = { p with diagnostics := ds }
  said : p'.diagnostics.toList = p.diagnostics.toList.filter fun d => !r.excuses x d
  once : p.diagnostics.toList.countP (r.excuses x) ≤ 1
  new : p.memo.get? x = none → p.diagnostics.toList.countP (r.excuses x) = 0

namespace Follows

theorem initial : Follows x r {} {} :=
  ⟨⟨_, rfl⟩, rfl, Nat.zero_le 1, fun _ => rfl⟩

theorem memo_eq (h : p.Follows x r p') : p'.memo = p.memo := by
  obtain ⟨ds, rfl⟩ := h.same
  rfl

theorem catalog_eq (h : p.Follows x r p') : p'.catalog = p.catalog := by
  obtain ⟨ds, rfl⟩ := h.same
  rfl

/-- A change that is the same in both states and forgets no node. -/
theorem of_eq (h : p.Follows x r p') {q q' : Progress}
    (hq : q' = { q with diagnostics := p'.diagnostics }) (hd : q.diagnostics = p.diagnostics)
    (hm : q.memo.get? x = none → p.memo.get? x = none) : q.Follows x r q' := by
  subst hq
  exact ⟨⟨_, rfl⟩, hd ▸ h.said, hd ▸ h.once, fun hn => hd ▸ h.new (hm hn)⟩

theorem report (h : p.Follows x r p') {d : Diagnostic} (hd : r.excuses x d = false) :
    (p.report d).Follows x r (p'.report d) := by
  have hsaid : (p.report d).diagnostics.toList = p.diagnostics.toList ++ [d] := by
    simp [Progress.report]
  have hcount : (p.report d).diagnostics.toList.countP (r.excuses x) =
      p.diagnostics.toList.countP (r.excuses x) := by
    simp [hsaid, List.countP_append, hd]
  refine ⟨?_, ?_, hcount ▸ h.once, fun hn => hcount ▸ h.new hn⟩
  · obtain ⟨ds, rfl⟩ := h.same
    exact ⟨ds.push d, rfl⟩
  · rw [hsaid, List.filter_append, ← h.said]
    simp [Progress.report, hd]

theorem reports (h : p.Follows x r p') {ds : List Diagnostic}
    (hds : ∀ d ∈ ds, r.excuses x d = false) :
    (ds.foldl Progress.report p).Follows x r (ds.foldl Progress.report p') := by
  induction ds generalizing p p' with
  | nil => exact h
  | cons d ds ih =>
    obtain ⟨hd, hds⟩ := List.forall_mem_cons.mp hds
    exact ih (h.report hd) hds

theorem begin (h : p.Follows x r p') (path : Path) : (p.begin path).Follows x r (p'.begin path) := by
  obtain ⟨ds, rfl⟩ := h.same
  refine h.of_eq rfl rfl fun hn => ?_
  rw [get?_memo_begin] at hn
  split at hn
  · cases hn
  · exact hn

theorem complete (h : p.Follows x r p') (path : Path) (id : SchemaId) (s : Schema) :
    (p.complete path id s).Follows x r (p'.complete path id s) := by
  obtain ⟨ds, rfl⟩ := h.same
  refine h.of_eq rfl rfl fun hn => ?_
  rw [get?_memo_complete] at hn
  split at hn
  · cases hn
  · exact hn

theorem abandon (h : p.Follows x r p') (path : Path) (id : SchemaId) :
    (p.abandon path id).Follows x r (p'.abandon path id) := by
  obtain ⟨ds, rfl⟩ := h.same
  refine h.of_eq rfl rfl fun hn => ?_
  rw [get?_memo_abandon] at hn
  split at hn
  · cases hn
  · exact Option.map_eq_none_iff.mp hn

/-- The one diagnostic that is excused is reported when the node at `x` is begun. -/
theorem excuse (h : p.Follows x r p') (hn : p.memo.get? x = none) {d : Diagnostic}
    (hd : r.excuses x d) : ((p.begin x).report d).Follows x r (p'.begin x) := by
  have hsaid : ((p.begin x).report d).diagnostics.toList = p.diagnostics.toList ++ [d] := by
    simp [Progress.report, Progress.begin]
  refine ⟨?_, ?_, ?_, fun hx => ?_⟩
  · obtain ⟨ds, rfl⟩ := h.same
    exact ⟨ds, rfl⟩
  · rw [hsaid, List.filter_append, ← h.said]
    simp [Progress.begin, hd]
  · rw [hsaid, List.countP_append, h.new hn]
    simp [hd]
  · have hm : ((p.begin x).report d).memo = (p.begin x).memo := rfl
    rw [hm, get?_memo_begin, if_pos rfl] at hx
    cases hx

end Follows

end Progress

namespace Classify

variable {doc doc' : Document} {α β : Type} {a b : Classify α}

/-- The two runs end the same way, in states of which the second follows the first. -/
inductive SameEnd (x : Path) (r : Respelling) :
    EStateM.Result Rejection Progress α → EStateM.Result Rejection Progress α → Prop
  | ok (v : α) {p p' : Progress} (h : p.Follows x r p') : SameEnd x r (.ok v p) (.ok v p')
  | error (why : Rejection) {p p' : Progress} (h : p.Follows x r p') :
    SameEnd x r (.error why p) (.error why p')

def Lockstep (x : Path) (r : Respelling) (a b : Classify α) : Prop :=
  ∀ p p' : Progress, p.Follows x r p' → SameEnd x r (a p) (b p')

theorem SameEnd.bind {f g : α → Classify β} {p p' : Progress} (h : SameEnd x r (a p) (b p'))
    (hf : ∀ v, Lockstep x r (f v) (g v)) : SameEnd x r ((a >>= f) p) ((b >>= g) p') := by
  generalize ha : a p = u, hb : b p' = u' at h
  cases h with
  | ok v hq =>
    rw [run_bind_ok ha, run_bind_ok hb]
    exact hf v _ _ hq
  | error why hq =>
    rw [run_bind_error ha, run_bind_error hb]
    exact .error why hq

namespace Lockstep

theorem pure (v : α) : Lockstep x r (Pure.pure v : Classify α) (Pure.pure v) :=
  fun _ _ h => .ok v h

theorem throw (why : Rejection) : Lockstep x r (throw why : Classify α) (throw why) :=
  fun _ _ h => .error why h

theorem bind {f g : α → Classify β} (h : Lockstep x r a b) (hf : ∀ v, Lockstep x r (f v) (g v)) :
    Lockstep x r (a >>= f) (b >>= g) :=
  fun p p' hp => (h p p' hp).bind hf

theorem map (h : Lockstep x r a b) (f : α → β) : Lockstep x r (f <$> a) (f <$> b) := by
  rw [← bind_pure_comp, ← bind_pure_comp]
  exact h.bind fun v => .pure (f v)

end Lockstep

theorem lockstep_report {d : Diagnostic} (hd : r.excuses x d = false) :
    Lockstep x r (report d) (report d) :=
  fun _ _ h => .ok () (h.report hd)

/-- No error is excused. -/
theorem lockstep_reject (why : Rejection) (source : String) :
    Lockstep x r (reject why source : Classify α) (reject why source) := by
  intro p p' h
  refine .error why (h.reports fun d hd => ?_)
  obtain ⟨code, -, rfl⟩ := List.mem_map.mp hd
  rfl

theorem lockstep_addSchema (s : Schema) : Lockstep x r (addSchema s) (addSchema s) := by
  intro p p' h
  obtain ⟨ds, rfl⟩ := h.same
  exact .ok _ (h.of_eq rfl rfl id)

theorem lockstep_anySchema : Lockstep x r anySchema anySchema := by
  intro p p' h
  obtain ⟨ds, rfl⟩ := h.same
  unfold anySchema
  cases ha : p.anyId with
  | some id =>
    refine .ok id ?_
    rw [← ha]
    exact h
  | none => exact .ok _ (h.of_eq rfl rfl id)

theorem sameEnd_inSlot {path : Path} {build build' : Classify Schema} {p p' : Progress}
    (hp : p.Follows x r p')
    (h : SameEnd x r (build (p.begin path)) (build' (p'.begin path))) :
    SameEnd x r (inSlot path build p) (inSlot path build' p') := by
  unfold inSlot
  rw [hp.catalog_eq]
  dsimp only
  generalize build (p.begin path) = u, build' (p'.begin path) = u' at h
  cases h with
  | ok s hq => exact .ok _ (hq.complete path _ s)
  | error why hq => exact .error why (hq.abandon path _)

/-! ### Nodes -/

/-- A property says the same of nodes of which the same becomes. -/
theorem property_eq {v w : Json} (h : v.Alike w) (key : String) (declared : Json) (id : SchemaId)
    (required : Bool) : property key declared w id required = property key declared v id required := by
  have hnullable : ∀ u : Json, (declared.flag "nullable" || u.flag "nullable" ||
      (declared.flag "x-nullable" || u.flag "x-nullable") || u.isNullable) =
        (declared.flag "nullable" || declared.flag "x-nullable" || u.isNullable) := by
    intro u
    unfold Json.isNullable
    cases declared.flag "nullable" <;> cases declared.flag "x-nullable" <;>
      cases u.flag "nullable" <;> cases u.flag "x-nullable" <;> rfl
  simp only [property, h.description, h.flag "readOnly" (by decide)]
  rw [hnullable w, hnullable v, h.isNullable]

section

variable {visit visit' : Classifier} {f : Fragment} (h : doc.Mirrors doc' x r)
  (hv : ∀ name f, doc.Visible x r.keys f →
    Lockstep x r (visit name f) (visit' name (doc'.counterpart f)))

include h hv

theorem lockstep_visitSlot {slot : Path} (hc : Document.Clear x r.keys slot) (fallback : String) :
    Lockstep x r (visitSlot doc visit slot fallback) (visitSlot doc' visit' slot fallback) := by
  unfold visitSlot
  rw [h.resolve_eq hc]
  cases hr : doc.resolve slot with
  | error why => exact lockstep_reject why _
  | ok t? =>
    cases t? with
    | none => exact .pure none
    | some t => exact (hv _ _ (h.visible_of_resolve hc hr)).map some

theorem lockstep_visitItems (name : String) (i : Nat) (slots : List Path)
    (hc : ∀ slot ∈ slots, Document.Clear x r.keys slot) :
    Lockstep x r (visitItems doc visit name i slots) (visitItems doc' visit' name i slots) := by
  induction slots generalizing i with
  | nil => exact .pure []
  | cons slot slots ih =>
    obtain ⟨hslot, hslots⟩ := List.forall_mem_cons.mp hc
    unfold visitItems
    exact (lockstep_visitSlot h hv hslot _).bind fun _ => (ih (i + 1) hslots).bind fun _ => .pure _

theorem lockstep_visitMembers (hf : doc.Visible x r.keys f) (name : String) {key : String}
    (hk : key ∉ r.keys) :
    Lockstep x r (visitMembers doc visit name f key)
      (visitMembers doc' visit' name (doc'.counterpart f) key) := by
  obtain ⟨hc, hx⟩ := hf.slot hk
  have hitems : doc'.items ((doc'.counterpart f).slot key) = doc.items (f.slot key) :=
    h.items_eq hc hx
  unfold visitMembers
  rw [hitems]
  exact lockstep_visitItems h hv _ 0 _ fun slot hm => hf.item hk hm

theorem lockstep_visitProperties (name : String) (required : List String)
    (entries : List (String × Path))
    (hc : ∀ e ∈ entries, Document.Clear x r.keys e.2 ∧ e.2 ≠ x) :
    Lockstep x r (visitProperties doc visit name required entries)
      (visitProperties doc' visit' name required entries) := by
  induction entries with
  | nil => exact .pure []
  | cons e entries ih =>
    obtain ⟨key, slot⟩ := e
    obtain ⟨⟨hslot, hx⟩, hentries⟩ := List.forall_mem_cons.mp hc
    unfold visitProperties
    rw [h.resolve_eq hslot]
    cases hr : doc.resolve slot with
    | error why => exact lockstep_reject why _
    | ok t? =>
      cases t? with
      | none => exact ih hentries
      | some t =>
        have ht := h.visible_of_resolve hslot hr
        -- what is declared at the slot is not the node at `x`, and only what it stands for may be
        have hdeclared : (doc'.at? slot).getD (doc'.counterpart t.toFragment).value =
            (doc.at? slot).getD t.value := by
          cases hs : doc.at? slot with
          | none =>
            rw [Document.resolve_eq_none_iff.mpr hs] at hr
            cases hr
          | some v => rw [h.at? slot hslot hx, hs]; rfl
        refine (hv _ _ ht).bind fun id => (ih hentries).bind fun more => ?_
        dsimp only [Document.counterpartOf]
        rw [hdeclared, property_eq (h.alike_counterpart ht)]
        exact .pure _

theorem lockstep_visitSection (hf : doc.Visible x r.keys f) (name : String) (s : Section) :
    Lockstep x r (visitSection doc visit name f s)
      (visitSection doc' visit' name (doc'.counterpart f) s) := by
  have ha := h.alike_counterpart hf
  have hkey : ∀ key ∉ Json.typeKeys, key ∉ r.keys := fun key hk hm => hk (r.keys_subset hm)
  unfold visitSection
  cases s with
  | properties =>
    have hk := hkey "properties" (by decide)
    obtain ⟨hc, hx⟩ := hf.slot hk
    have hentries : doc'.entries ((doc'.counterpart f).slot "properties") =
        doc.entries (f.slot "properties") :=
      h.entries_eq hc hx
    dsimp only
    rw [ha.hasEntries "properties" (by decide), ha.strings "required" (by decide), hentries,
      ha.natural? "minProperties" (by decide), ha.natural? "maxProperties" (by decide)]
    split
    · exact (lockstep_visitProperties h hv name _ _ fun e hm => hf.entry hk hm).bind fun _ => .pure _
    · exact .pure none
  | additionalProperties =>
    dsimp only
    rw [ha.additionalProperties]
    split
    · exact .pure none
    · exact lockstep_anySchema.bind fun _ => .pure _
    · have hc := (hf.slot (hkey "additionalProperties" (by decide))).1
      exact (lockstep_visitSlot h hv hc _).bind fun _ => .pure _
  | anyOf =>
    dsimp only
    rw [ha.hasItems "anyOf" (by decide)]
    split
    · exact (lockstep_visitMembers h hv hf name (hkey "anyOf" (by decide))).bind fun _ => .pure _
    · exact .pure none
  | oneOf =>
    dsimp only
    rw [ha.hasItems "oneOf" (by decide)]
    split
    · exact (lockstep_visitMembers h hv hf name (hkey "oneOf" (by decide))).bind fun _ => .pure _
    · exact .pure none

theorem lockstep_visitSections (hf : doc.Visible x r.keys f) (name : String) (sections : List Section) :
    Lockstep x r (visitSections doc visit name f sections)
      (visitSections doc' visit' name (doc'.counterpart f) sections) := by
  induction sections with
  | nil => exact .pure []
  | cons s sections ih =>
    unfold visitSections
    exact (lockstep_visitSection h hv hf name s).bind fun _ => ih.bind fun _ => .pure _

end

theorem lockstep_addParts (name : String) (parts : List (Section × Schema.Kind)) :
    Lockstep x r (addParts name parts) (addParts name parts) := by
  induction parts with
  | nil => exact .pure []
  | cons part parts ih =>
    obtain ⟨s, kind⟩ := part
    unfold addParts
    exact (lockstep_addSchema _).bind fun _ => ih.bind fun _ => .pure _

theorem lockstep_assemble (f g : Fragment) (hp : g.path = f.path) (ha : f.value.Agrees g.value)
    (name : String) (parents : List SchemaId) (parts : List (Section × Schema.Kind)) :
    Lockstep x r (assemble name f parents parts) (assemble name g parents parts) := by
  have hpointer : g.pointer = f.pointer := congrArg Pointer.ofPath hp
  unfold assemble
  split
  · rw [hpointer, ha.describedBy]
    have hd : r.excuses x ⟨.warning, .emptyObject,
        s!"The schema '{name}' declares no properties and no members", f.pointer⟩ = false := by
      cases r <;> rfl
    exact (lockstep_report hd).bind fun _ => .pure _
  · rw [ha.describedBy]
    exact .pure _
  · refine (lockstep_addParts name parts).bind fun ids => ?_
    rw [ha.describedBy]
    exact .pure _

theorem lockstep_buildChoice {v w : Json} (ha : v.Alike w) (name : String) :
    Lockstep x r (buildChoice name v) (buildChoice name w) := by
  unfold buildChoice
  simp only [ha.choiceName?, ha.choiceKind?, ha.choices, ha.isSealed, ha.describedBy]
  split
  · exact (lockstep_addSchema _).bind fun _ => .pure _
  · exact lockstep_anySchema.bind fun _ => .pure _

section

variable {visit visit' : Classifier} {f : Fragment} (h : doc.Mirrors doc' x r)
  (hv : ∀ name f, doc.Visible x r.keys f →
    Lockstep x r (visit name f) (visit' name (doc'.counterpart f)))
  (hf : doc.Visible x r.keys f)

include h hv hf

theorem lockstep_buildObject (name : String) :
    Lockstep x r (buildObject doc visit name f) (buildObject doc' visit' name (doc'.counterpart f)) := by
  have ha := h.alike_counterpart hf
  have hk : "allOf" ∉ r.keys := fun hm => absurd (r.keys_subset hm) (by decide)
  unfold buildObject
  rw [ha.hasItems "oneOf" (by decide), ha.hasEntries "properties" (by decide)]
  split
  · exact lockstep_reject _ _
  · refine (lockstep_visitMembers h hv hf name hk).bind fun parents => ?_
    refine (lockstep_visitSections h hv hf name _).bind fun parts => ?_
    exact lockstep_assemble f (doc'.counterpart f) rfl ha.toAgrees name parents parts

theorem lockstep_buildArray (name : String) :
    Lockstep x r (buildArray doc visit name f) (buildArray doc' visit' name (doc'.counterpart f)) := by
  have ha := h.alike_counterpart hf
  have hk : "items" ∉ r.keys := fun hm => absurd (r.keys_subset hm) (by decide)
  unfold buildArray
  refine (lockstep_visitSlot h hv (hf.slot hk).1 _).bind fun element? => ?_
  cases element? with
  | none => exact lockstep_reject _ _
  | some element =>
    dsimp only
    rw [ha.describedBy, ha.natural? "minItems" (by decide), ha.natural? "maxItems" (by decide),
      ha.flag "uniqueItems" (by decide)]
    exact .pure _

theorem lockstep_buildForm (name : String) :
    Lockstep x r (buildForm doc visit name f) (buildForm doc' visit' name (doc'.counterpart f)) := by
  have ha := h.alike_counterpart hf
  unfold buildForm
  rw [ha.form]
  split
  · exact lockstep_buildChoice ha name
  · rw [ha.describedBy]
    exact .pure _
  · exact lockstep_buildArray h hv hf name
  · exact lockstep_buildObject h hv hf name
  · exact lockstep_reject _ _
  · exact lockstep_reject _ _
  · exact lockstep_reject _ _

end

section

variable {visit visit' : Classifier} {f : Fragment} (h : doc.Mirrors doc' x r)
  (hv : ∀ name f, doc.Visible x r.keys f →
    Lockstep x r (visit name f) (visit' name (doc'.counterpart f)))
  (hf : doc.Visible x r.keys f)

include h hv hf

/-- A node is built for the first time. -/
theorem sameEnd_build (name : String) {p p' : Progress} (hp : p.Follows x r p')
    (hn : p.memo.get? f.path = none) :
    SameEnd x r (build doc visit name f (p.begin f.path))
      (build doc' visit' name (doc'.counterpart f) (p'.begin f.path)) := by
  have hform := lockstep_buildForm h hv hf name
  rw [build_eq, build_eq, h.correction?_counterpart hf name]
  cases f.value.correction? with
  | none => exact hform _ _ (hp.begin f.path)
  | some c =>
    by_cases hd : r.excuses x (c.diagnostic name f.pointer)
    · -- Only the node at `x` is excused, and as it is new, nothing has been excused before.
      have hfx : f.path = x := by
        simp only [Respelling.excuses, Bool.and_eq_true, decide_eq_true_eq] at hd
        exact Pointer.ofPath_injective hd.2
      rw [Option.filter_some, if_neg (by simp [hd])]
      subst hfx
      exact hform _ _ (hp.excuse hn hd)
    · rw [Bool.not_eq_true] at hd
      rw [Option.filter_some, if_pos (by simp [hd])]
      exact SameEnd.bind (lockstep_report hd _ _ (hp.begin f.path)) fun _ => hform

end

theorem lockstep_classifyWithin (h : doc.Mirrors doc' x r)
    (stack : List Path) (name : String) {f : Fragment} (hf : doc.Visible x r.keys f) :
    Lockstep x r (classifyWithin doc stack name f)
      (classifyWithin doc' stack name (doc'.counterpart f)) := by
  -- The measure is that of the first document; the second refuses a node exactly where the first does.
  induction hn : doc.unseen stack using Nat.strongRecOn generalizing stack name f with
  | ind n ih =>
    intro p p' hp
    have hat : doc.at? f.path = some f.value := hf.holds
    have hpath : (doc'.counterpart f).path = f.path := rfl
    rw [classifyWithin_apply, classifyWithin_apply, hpath, hp.memo_eq, hat, h.at?_counterpart hf]
    cases hm : p.memo.get? f.path with
    | some e =>
      cases e with
      | inProgress id => exact .ok id hp
      | done id => exact .ok id hp
      | failed => exact .error _ hp
    | none =>
      dsimp only
      by_cases hs : f.path ∈ stack
      · rw [if_neg fun hg => hg.2 hs, if_neg fun hg => hg.2 hs]
        exact .error _ hp
      · have hlt := hn ▸ Document.unseen_cons_lt hat hs
        rw [if_pos ⟨rfl, hs⟩, if_pos ⟨rfl, hs⟩]
        exact sameEnd_inSlot hp
          (sameEnd_build h (fun name g hg => ih _ hlt _ name hg rfl) hf name hp hm)

end Classify

end ApiModel

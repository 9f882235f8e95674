import ApiModel.Proofs.Reports

/-!
# What the steps of a classification preserve

`Preserves I x`: if `I` holds of the progress before the step `x`, it holds of what the step leaves
behind, whatever comes of it. `Agree I x y`: besides, the steps do the same where `I` holds. Two
classifiers that agree below a node agree on all that leads there, and on the node itself if `I` is not
about schemas. What remains to be shown of an `I` is what is special about it: what it says of diagnostics
is asked only of those that can be reported in the place.
-/

namespace ApiModel

/-- The codes of what is said of schemas. -/
def Code.isOfSchema : Code → Bool
  | .missingType | .fileType | .unknownType | .unknownFormat | .missingItems | .ambiguousOneOf
  | .emptyObject => true
  | _ => false

/-- The codes of what is said above schemas: of operations and their parts, except that one has the
identity of another. -/
def Code.isOfOperation : Code → Bool
  | .interpretations | .unresolvedReference | .missingSchema | .invalidParameter
  | .multipleContentTypes => true
  | _ => false

theorem Code.isOfSchema_of_isOfOperation {c : Code} (h : c.isOfOperation) : c.isOfSchema = false := by
  cases c <;> first | rfl | cases h

namespace Schema

/-- The schema is like the object that gathers the fields of a form. -/
def IsForm (s : Schema) : Prop :=
  ∃ name fields, s = .undescribed (name ++ "Body") (.object fields none none)

/-- The schemas that are made on the way to the schema of a node have other names. -/
theorem not_isForm_of_suffix {name suffix : String} (hne : suffix.toList ≠ [])
    (hlast : suffix.toList.getLast hne ≠ 'y') (kind : Kind) :
    ¬ (undescribed (name ++ suffix) kind).IsForm := by
  rintro ⟨name', fields, h⟩
  have hname : (name ++ suffix).toList = (name' ++ "Body").toList := congrArg (·.name.toList) h
  have hend : (name ++ suffix).toList.getLast? = (name' ++ "Body").toList.getLast? := by rw [hname]
  rw [String.toList_append, String.toList_append, List.getLast?_append, List.getLast?_append,
    List.getLast?_eq_some_getLast hne] at hend
  exact hlast (Option.some.inj hend)

theorem not_isForm_of_kind {s : Schema} (h : ∀ fields, s.kind ≠ .object fields none none) :
    ¬ s.IsForm := by
  rintro ⟨name, fields, rfl⟩
  exact h fields rfl

end Schema

namespace Classify

variable {doc : Document} {visit visit' : Classifier} {f : Fragment} {α β : Type} {x y : Classify α}
  {I : Progress → Prop}

def Preserves (I : Progress → Prop) (x : Classify α) : Prop := ∀ p, I p → I (after x p)

def Agree (I : Progress → Prop) (x y : Classify α) : Prop := ∀ p, I p → x p = y p ∧ I (after x p)

theorem after_bind_ok {g : α → Classify β} {p p' : Progress} {a : α} (h : x p = .ok a p') :
    after (x >>= g) p = after (g a) p' := by
  unfold after
  rw [run_bind_ok h]

theorem after_bind_error {g : α → Classify β} {p p' : Progress} {r : Rejection}
    (h : x p = .error r p') : after (x >>= g) p = p' := by
  unfold after
  rw [run_bind_error h]

theorem after_of_ok {p p' : Progress} {a : α} (h : x p = .ok a p') : after x p = p' := by
  unfold after
  rw [h]

theorem after_of_error {p p' : Progress} {r : Rejection} (h : x p = .error r p') :
    after x p = p' := by
  unfold after
  rw [h]

namespace Preserves

theorem of_eq (h : ∀ p, after x p = p) : Preserves I x := fun p hp => (h p).symm ▸ hp

theorem pure (a : α) : Preserves I (Pure.pure a : Classify α) := of_eq fun _ => rfl

theorem bind {g : α → Classify β} (hx : Preserves I x) (hg : ∀ a, Preserves I (g a)) :
    Preserves I (x >>= g) := by
  intro p hp
  have hp' := hx p hp
  cases hrun : x p with
  | ok a p' =>
    rw [after_of_ok hrun] at hp'
    rw [after_bind_ok hrun]
    exact hg a p' hp'
  | error r p' =>
    rw [after_of_error hrun] at hp'
    rwa [after_bind_error hrun]

theorem map (hx : Preserves I x) (g : α → β) : Preserves I (g <$> x) := by
  rw [← bind_pure_comp]
  exact hx.bind fun a => .pure (g a)

end Preserves

theorem Preserves.agree (hx : Preserves I x) : Agree I x x := fun p hp => ⟨rfl, hx p hp⟩

namespace Agree

theorem preserves (h : Agree I x y) : Preserves I x := fun p hp => (h p hp).2

theorem pure (a : α) : Agree I (Pure.pure a : Classify α) (Pure.pure a) :=
  (Preserves.pure a).agree

theorem bind {g g' : α → Classify β} (h : Agree I x y) (hg : ∀ a, Agree I (g a) (g' a)) :
    Agree I (x >>= g) (y >>= g') := by
  intro p hp
  obtain ⟨he, hp'⟩ := h p hp
  cases hrun : x p with
  | ok a p' =>
    rw [after_of_ok hrun] at hp'
    rw [after_bind_ok hrun, run_bind_ok hrun, run_bind_ok (he ▸ hrun)]
    exact hg a p' hp'
  | error r p' =>
    rw [after_of_error hrun] at hp'
    rw [after_bind_error hrun, run_bind_error hrun, run_bind_error (he ▸ hrun)]
    exact ⟨rfl, hp'⟩

theorem map (h : Agree I x y) (g : α → β) : Agree I (g <$> x) (g <$> y) := by
  rw [← bind_pure_comp, ← bind_pure_comp]
  exact h.bind fun a => .pure (g a)

end Agree

theorem preserves_reports {ds : List Diagnostic} (hr : ∀ d ∈ ds, ∀ p, I p → I (p.report d)) :
    Preserves I (modify fun p => ds.foldl Progress.report p) := by
  intro p hp
  have hall : ∀ p : Progress, I p → I (ds.foldl Progress.report p) := by
    induction ds with
    | nil => exact fun _ h => h
    | cons d ds ih =>
      obtain ⟨hd, hds⟩ := List.forall_mem_cons.mp hr
      exact fun p h => ih hds _ (hd p h)
  exact hall p hp

theorem preserves_rejection {r : Rejection}
    (hr : ∀ p d, r.code? = some d.code → I p → I (p.report d)) (source : String) :
    Preserves I (modify fun p => (r.diagnostics source).foldl Progress.report p) := by
  refine preserves_reports fun d hd p => hr p d ?_
  obtain ⟨code, hcode, rfl⟩ := List.mem_map.mp hd
  exact Option.mem_toList.mp hcode

theorem preserves_reject {r : Rejection} (hr : ∀ p d, r.code? = some d.code → I p → I (p.report d))
    (source : String) : Preserves I (reject r source : Classify α) :=
  preserves_rejection hr source

theorem preserves_report {d : Diagnostic} (hd : ∀ p, I p → I (p.report d)) :
    Preserves I (report d) :=
  hd

/-! ### Nodes -/

/-- What is needed of `I` for the way from a node to those below it. -/
structure Agreeing (doc : Document) (I : Progress → Prop) (visit visit' : Classifier) : Prop where
  report : ∀ p d, d.code = .unresolvedReference → I p → I (p.report d)
  any : Preserves I anySchema
  visit : ∀ name f, doc.Holds f → Agree I (visit name f) (visit' name f)

section

variable (hv : Agreeing doc I visit visit')

include hv

theorem Agreeing.reject {slot : Path} {r : Rejection} (hres : doc.resolve slot = .error r) :
    Agree I (Classify.reject r (Pointer.ofPath slot) : Classify α)
      (Classify.reject r (Pointer.ofPath slot)) := by
  refine (preserves_reject (fun p d hd => hv.report p d ?_) _).agree
  exact (Option.some.inj ((Document.code?_of_resolve hres).symm.trans hd)).symm

theorem agree_visitSlot (slot : Path) (fallback : String) :
    Agree I (visitSlot doc visit slot fallback) (visitSlot doc visit' slot fallback) := by
  unfold visitSlot
  split
  · rename_i r hres
    exact hv.reject hres
  · exact .pure _
  · rename_i t ht
    exact (hv.visit _ _ (Document.holds_of_resolve ht)).map _

theorem agree_visitItems (name : String) (i : Nat) (slots : List Path) :
    Agree I (visitItems doc visit name i slots) (visitItems doc visit' name i slots) := by
  induction slots generalizing i with
  | nil => exact .pure _
  | cons slot slots ih =>
    unfold visitItems
    exact (agree_visitSlot hv slot _).bind fun _ => (ih (i + 1)).bind fun _ => .pure _

theorem agree_visitMembers (name key : String) :
    Agree I (visitMembers doc visit name f key) (visitMembers doc visit' name f key) :=
  agree_visitItems hv _ 0 _

theorem agree_visitProperties (name : String) (required : List String)
    (entries : List (String × Path)) :
    Agree I (visitProperties doc visit name required entries)
      (visitProperties doc visit' name required entries) := by
  induction entries with
  | nil => exact .pure _
  | cons e entries ih =>
    obtain ⟨key, slot⟩ := e
    unfold visitProperties
    split
    · rename_i r hres
      exact hv.reject hres
    · exact ih
    · rename_i t ht
      exact (hv.visit _ _ (Document.holds_of_resolve ht)).bind fun _ => ih.bind fun _ => .pure _

theorem agree_visitSection (name : String) (s : Section) :
    Agree I (visitSection doc visit name f s) (visitSection doc visit' name f s) := by
  unfold visitSection
  cases s with
  | properties =>
    dsimp only
    split
    · exact (agree_visitProperties hv name _ _).bind fun _ => .pure _
    · exact .pure _
  | additionalProperties =>
    dsimp only
    split
    · exact .pure _
    · exact hv.any.agree.bind fun _ => .pure _
    · exact (agree_visitSlot hv _ _).bind fun _ => .pure _
  | anyOf | oneOf =>
    dsimp only
    split
    · exact (agree_visitMembers hv name _).bind fun _ => .pure _
    · exact .pure _

theorem agree_visitSections (name : String) (sections : List Section) :
    Agree I (visitSections doc visit name f sections) (visitSections doc visit' name f sections) := by
  induction sections with
  | nil => exact .pure _
  | cons s sections ih =>
    unfold visitSections
    exact (agree_visitSection hv name s).bind fun _ => ih.bind fun _ => .pure _

end

/-- `I` is kept where a schema is added that no node describes and that gathers no form. -/
def AdmitsSchemas (I : Progress → Prop) : Prop :=
  ∀ p s any?, ¬ s.IsForm → I p → I { p with catalog := p.catalog.add s, anyId := any? }

namespace AdmitsSchemas

variable (hI : AdmitsSchemas I)

include hI

theorem addSchema {s : Schema} (hs : ¬ s.IsForm) : Preserves I (addSchema s) :=
  fun p => hI p s p.anyId hs

theorem anySchema : Preserves I anySchema := by
  intro p h
  unfold after Classify.anySchema
  cases p.anyId with
  | some id => exact h
  | none => exact hI p _ _ (Schema.not_isForm_of_kind fun _ => by simp [Schema.anyValue]) h

theorem addParts (name : String) (parts : List (Section × Schema.Kind)) :
    Preserves I (addParts name parts) := by
  induction parts with
  | nil => exact .pure _
  | cons part parts ih =>
    obtain ⟨sec, kind⟩ := part
    have hform : ¬ (Schema.undescribed s!"{name}.{sec.key}" kind).IsForm := by
      cases sec <;> exact Schema.not_isForm_of_suffix (by decide) (by decide) kind
    unfold Classify.addParts
    exact (hI.addSchema hform).bind fun _ => ih.bind fun _ => .pure _

theorem buildChoice (name : String) (v : Json) : Preserves I (buildChoice name v) := by
  unfold Classify.buildChoice
  dsimp only
  split
  · refine (hI.addSchema ?_).bind fun _ => .pure _
    exact Schema.not_isForm_of_suffix (by decide) (by decide) _
  · exact hI.anySchema.bind fun _ => .pure _

end AdmitsSchemas

/-- `I` is about the memory, the log and what was said. -/
def IgnoresSchemas (I : Progress → Prop) : Prop :=
  ∀ p q, q.memo = p.memo → q.reserved = p.reserved → q.diagnostics = p.diagnostics → I p → I q

theorem IgnoresSchemas.admits (hI : IgnoresSchemas I) : AdmitsSchemas I :=
  fun p _ _ _ => hI p _ rfl rfl rfl

section

variable (hI : AdmitsSchemas I) (hsay : ∀ p d, d.code.isOfSchema → I p → I (p.report d))

include hI hsay

theorem preserves_assemble (name : String) (parents : List SchemaId)
    (parts : List (Section × Schema.Kind)) : Preserves I (assemble name f parents parts) := by
  unfold assemble
  split
  · exact (preserves_report fun p => hsay p _ rfl).bind fun _ => .pure _
  · exact .pure _
  · exact (hI.addParts name parts).bind fun _ => .pure _

theorem agree_build (hv : Agreeing doc I visit visit') (name : String) :
    Agree I (build doc visit name f) (build doc visit' name f) := by
  have hsaid : Preserves I
      (f.value.correction?.forM fun c => report (c.diagnostic name f.pointer)) := by
    cases f.value.correction? with
    | none => exact .pure _
    | some c => exact preserves_report fun p => hsay p _ (by cases c <;> rfl)
  have hreject : ∀ {r : Rejection} {c : Code}, r.code? = some c → c.isOfSchema →
      Agree I (reject r f.pointer : Classify Schema) (reject r f.pointer) := by
    intro r c hr hc
    refine (preserves_reject (fun p d hd => hsay p d ?_) _).agree
    rwa [← Option.some.inj (hr.symm.trans hd)]
  unfold build
  refine hsaid.agree.bind fun _ => ?_
  split
  · exact (hI.buildChoice name f.value).agree
  · exact .pure _
  · unfold buildArray
    refine (agree_visitSlot hv _ _).bind fun element? => ?_
    cases element? with
    | none => exact hreject rfl rfl
    | some element => exact .pure _
  · unfold buildObject
    split
    · exact hreject rfl rfl
    · refine (agree_visitMembers hv name _).bind fun parents => ?_
      refine (agree_visitSections hv name _).bind fun parts => ?_
      exact (preserves_assemble hI hsay name parents parts).agree
  · exact hreject rfl rfl
  · exact hreject rfl rfl
  · exact hreject rfl rfl

end

theorem after_inSlot {J : Progress → Prop} {path : Path} {build : Classify Schema} {p : Progress}
    (hb : J (after build (p.begin path))) (hcomplete : ∀ q id s, J q → I (q.complete path id s))
    (habandon : ∀ q id, J q → I (q.abandon path id)) : I (after (inSlot path build) p) := by
  unfold after at hb
  unfold after inSlot
  dsimp only
  split at hb <;> rename_i hrun <;> rw [hrun]
  · exact hcomplete _ _ _ hb
  · exact habandon _ _ hb

/-- What building a new node preserves, if classifying the nodes below does, classification preserves. -/
theorem preserves_classifyWithin_of_build {ι : Type} {I : ι → Progress → Prop}
    (hbuild : ∀ visit name f, doc.Holds f →
      (∀ i name g, doc.Holds g → Preserves (I i) (visit name g)) →
        ∀ i p, I i p → p.memo.get? f.path = none →
          I i (after (inSlot f.path (build doc visit name f)) p))
    (stack : List Path) (i : ι) (name : String) (hf : doc.Holds f) :
    Preserves (I i) (classifyWithin doc stack name f) := by
  induction hn : doc.unseen stack using Nat.strongRecOn generalizing stack i name f with
  | ind n ih =>
    intro p h
    unfold after
    rw [classifyWithin_apply]
    cases hm : p.memo.get? f.path with
    | some e => cases e <;> exact h
    | none =>
      have hat : doc.at? f.path = some f.value := hf
      dsimp only
      by_cases hs : f.path ∈ stack
      · rw [if_neg fun hg => hg.2 hs]
        exact h
      · rw [if_pos ⟨by rw [hat]; rfl, hs⟩]
        have hlt := hn ▸ Document.unseen_cons_lt hat hs
        exact hbuild _ name f hf (fun i name g hg => ih _ hlt (f.path :: stack) i name hg rfl) i p h hm

end ApiModel.Classify

import ApiModel.Proofs.Parts

/-!
# What is left of an object

All that a run does keeps every part with its owner. So a part that is stored at the end is a member of
the object that it was made for, or that object has failed and nothing refers to the part any more: an
object that is withdrawn because it refers to a node that failed leaves those of its parts behind that
do not refer to that node themselves.
-/

namespace ApiModel

open Progress (Coherent Owned Awaits)
open Classify (Section)

/-- What holds of the progress whenever the nodes of the stack are in progress. -/
structure Progress.Kept (doc : Document) (stack : List Path) (p : Progress) : Prop where
  coherent : p.Coherent doc stack
  owned : p.Owned doc

namespace Classify

variable {doc : Document} {stack : List Path} {visit : Classifier} {p p' : Progress} {f : Fragment}
  {α : Type} {E : Prop}

/-- The step keeps all parts with their owners, those aside that the schema it ends with is to list. -/
def Leaves (doc : Document) (f : Fragment) (p : Progress) (x : Classify Schema) : Prop :=
  match x p with
  | .ok s p' => p'.Awaits doc f s
  | .error _ p' => p'.Owned doc

theorem Leaves.bind {x : Classify α} {g : α → Classify Schema} {Q : α → Progress → Prop}
    (h : p.Kept doc stack) (hx : Preserves (Progress.Kept doc stack) x)
    (hq : Ensures doc stack p x Q E)
    (hg : ∀ a p', p.Leads doc stack p' → p'.Kept doc stack → Q a p' → Leaves doc f p' (g a)) :
    Leaves doc f p (x >>= g) := by
  have hkept := hx p h
  unfold Ensures at hq
  unfold Leaves
  cases hrun : x p with
  | ok a p' =>
    rw [after_of_ok hrun] at hkept
    rw [hrun] at hq
    rw [run_bind_ok hrun]
    exact hg a p' hq.1 hkept hq.2
  | error r p' =>
    rw [after_of_error hrun] at hkept
    rw [run_bind_error hrun]
    exact hkept.owned

theorem Leaves.pure {s : Schema} (h : p.Kept doc stack) (hr : ∀ r ∈ s.references, ¬ p.PartAt r) :
    Leaves doc f p (Pure.pure s) :=
  .of_owned h.owned hr

theorem kept_report {p : Progress} (h : p.Kept doc stack) (d : Diagnostic) :
    (p.report d).Kept doc stack :=
  ⟨h.coherent.report d, h.owned.report d⟩

theorem leaves_reject (h : p.Kept doc stack) (r : Rejection) (source : String) :
    Leaves doc f p (reject r source) :=
  (preserves_reject (α := Schema) (I := Progress.Kept doc stack) (fun _ d _ h => kept_report h d)
    source p h).owned

theorem preserves_anySchema : Preserves (Progress.Kept doc stack) anySchema := by
  intro p h
  refine ⟨(ensures_anySchema (E := True) h.coherent).leads_after.coherent, ?_⟩
  unfold after anySchema
  cases ha : p.anyId with
  | some id => exact h.owned
  | none =>
    refine h.owned.add (by simp [ha]) (Schema.not_isPart_of_kind fun sec => ?_) ?_
    · cases sec <;> exact id
    · exact fun r hr => (List.not_mem_nil hr).elim

theorem exists_addParts (h : p.Coherent doc stack) (hf : f.value.form = .object) (name : String)
    {ids : List SchemaId} (hb : p.OwnedBut doc f ids) {parts : List (Section × Schema.Kind)}
    (hparts : ∀ part ∈ parts, p.directory.DepictsSection doc f part.1 (some part.2)) :
    ∃ new p', addParts name parts p = .ok new p' ∧ p.Leads doc stack p' ∧
      p'.OwnedBut doc f (ids ++ new) := by
  induction parts generalizing p ids with
  | nil => exact ⟨[], p, rfl, h.leads, by rwa [List.append_nil]⟩
  | cons part parts ih =>
    obtain ⟨sec, kind⟩ := part
    rw [List.forall_mem_cons] at hparts
    have hd := hparts.1
    have hl := h.leads_add (.part name hd.makes) hd.makes.ne_any fun r hr => by
      rcases hd.below_or_any hf hr with ⟨slot, -, hs⟩ | ha
      · exact h.fills_of_shows hs
      · exact h.fills_of_any ha
    obtain ⟨new, p', hrun, hl', hb'⟩ := ih hl.coherent (hb.add h hf name hd)
      fun part hm => (hparts.2 part hm).mono hl.directory_le
    refine ⟨p.catalog.nextId :: new, p', ?_, hl.trans hl', by simpa using hb'⟩
    have hadd : addSchema (.undescribed s!"{name}.{sec.key}" kind) p = .ok p.catalog.nextId
        { p with catalog := p.catalog.add (.undescribed s!"{name}.{sec.key}" kind) } := rfl
    unfold addParts
    rw [run_bind_ok hadd, run_bind_ok hrun]
    rfl

theorem leaves_assemble (h : p.Kept doc stack) (hf : f.value.form = .object) (name : String)
    {parents : List SchemaId} (hparents : ∀ r ∈ parents, ∃ slot, p.directory.Shows doc slot r)
    {parts : List (Section × Schema.Kind)}
    (hparts : ∀ part ∈ parts, p.directory.DepictsSection doc f part.1 (some part.2)) :
    Leaves doc f p (assemble name f parents parts) := by
  have members : Leaves doc f p (addParts name parts >>= fun ids =>
      Pure.pure (Schema.describedBy name f.value (.allOf (parents ++ ids)))) := by
    have hstart : p.OwnedBut doc f [] := fun id hp => .inl ⟨List.not_mem_nil, h.owned id hp⟩
    obtain ⟨ids, p', hrun, hl, hb⟩ := exists_addParts h.coherent hf name hstart hparts
    rw [List.nil_append] at hb
    unfold Leaves
    rw [run_bind_ok hrun]
    refine ⟨ids, hb, fun id hid => ⟨_, rfl, List.mem_append_right _ hid⟩, fun r hr hp => ?_⟩
    refine (List.mem_append.mp hr).resolve_left fun hm => ?_
    obtain ⟨slot, hs⟩ := hparents r hm
    exact hl.coherent.not_partAt_of_shows (hs.mono hl.directory_le) hp
  match parents, parts with
  | [], [] =>
    refine .bind h (preserves_report fun _ h => kept_report h _) (ensures_report (E := True) h.coherent _) ?_
    exact fun _ p' _ h' _ => .pure h' fun r hr => (List.not_mem_nil hr).elim
  | [], [(sec, kind)] =>
    have hd := hparts _ (List.mem_singleton_self _)
    exact .pure h fun r hr => h.coherent.not_partAt_of_depictsSection hf hd hr
  | [], _ :: _ :: _ => exact members
  | _ :: _, _ => exact members

variable (hv : Agreeing doc (Progress.Kept doc stack) visit visit) (hc : Classifies doc stack visit)

include hv hc in
theorem leaves_buildObject (h : p.Kept doc stack) (hh : doc.Holds f) (hf : f.value.form = .object)
    (name : String) : Leaves doc f p (buildObject doc visit name f) := by
  unfold buildObject
  split
  · exact leaves_reject h _ _
  · have hmembers := ensures_visitMembers (f := f) (E := True) hc h.coherent name "allOf"
      fun _ _ _ => trivial
    refine .bind h (agree_visitMembers hv name _).preserves hmembers fun parents p₁ hl₁ h₁ hparents => ?_
    have hall : Section.all.Nodup := by decide
    have hsections := ensures_visitSections hc hh hf h₁.coherent name hall
    refine .bind h₁ (agree_visitSections hv name _).preserves hsections fun parts p₂ hl₂ h₂ hparts => ?_
    obtain ⟨kinds, hkinds, rfl⟩ := hparts
    refine leaves_assemble h₂ hf name (fun r hr => ?_) fun part hm => ?_
    · obtain ⟨slot, -, hs⟩ := exists_left_of_forall₂ hparents hr
      exact ⟨slot, hs.mono hl₂.directory_le⟩
    · exact .of_mem_partsOf hkinds hm

include hv hc in
theorem leaves_buildArray (h : p.Kept doc stack) (name : String) :
    Leaves doc f p (buildArray doc visit name f) := by
  unfold buildArray
  have hslot := ensures_visitSlot (E := True) hc h.coherent (f.slot "items") s!"{name}.items"
    fun _ => trivial
  refine .bind h (agree_visitSlot hv _ _).preserves hslot fun id? p' _ h' hs => ?_
  cases id? with
  | none => exact leaves_reject h' _ _
  | some id =>
    refine .pure h' fun r hr => ?_
    rw [List.mem_singleton.mp hr]
    exact h'.coherent.not_partAt_of_shows hs

theorem leaves_buildChoice (h : p.Kept doc stack) (name : String) (v : Json) :
    Leaves doc f p (buildChoice name v) := by
  unfold buildChoice
  dsimp only
  cases hk : v.choiceKind? with
  | some kind =>
    have hpart := Schema.not_isPart_of_kind (s := .undescribed
      s!"{v.choiceName?.getD name}.choiceType" kind) (not_makes_of_choiceKind? hk)
    refine .of_owned (h.owned.add (fun _ ha => ha) hpart fun r hr => ?_) fun r hr => ?_
    · rw [Schema.references, Schema.kind_undescribed, (Json.plain_of_choiceKind? hk).1] at hr
      exact (List.not_mem_nil hr).elim
    · rw [List.mem_singleton.mp hr]
      exact Progress.not_partAt (by simp [Catalog.get?_add]) hpart
  | none =>
    refine .bind h preserves_anySchema (ensures_anySchema (E := True) h.coherent) ?_
    intro id p' _ h' ha
    refine .pure h' fun r hr => ?_
    rw [List.mem_singleton.mp hr]
    exact h'.coherent.not_partAt_of_any ha

include hv hc in
theorem leaves_build (h : p.Kept doc stack) (hh : doc.Holds f) (name : String) :
    Leaves doc f p (build doc visit name f) := by
  have hreport : ∀ c?, Preserves (Progress.Kept doc stack)
        (Option.forM c? fun c : Correction => report (c.diagnostic name f.pointer)) ∧
      Ensures doc stack p (Option.forM c? fun c : Correction => report (c.diagnostic name f.pointer))
        (fun _ _ => True) True := by
    intro c?
    cases c? with
    | none => exact ⟨.pure _, .pure h.coherent trivial⟩
    | some c => exact ⟨preserves_report fun _ h => kept_report h _, ensures_report h.coherent _⟩
  unfold build
  obtain ⟨hkeep, hens⟩ := hreport f.value.correction?
  refine .bind h hkeep hens fun _ p' _ h' _ => ?_
  cases hf : f.value.form with
  | choice => exact leaves_buildChoice h' name f.value
  | plain kind =>
    refine .pure h' fun r hr => ?_
    rw [Schema.references, Schema.kind_describedBy, (Json.plain_of_form hf).1] at hr
    exact (List.not_mem_nil hr).elim
  | array => exact leaves_buildArray hv hc h' name
  | object => exact leaves_buildObject hv hc h' hh hf name
  | untyped | unknownType | unknownFormat => exact leaves_reject h' _ _

theorem owned_inSlot (h : p.Kept doc stack) (hh : doc.Holds f) (hn : p.memo.get? f.path = none)
    {build : Classify Schema} {Q : Schema → Progress → Prop}
    (he : Ensures doc (f.path :: stack) (p.begin f.path) build Q E)
    (hb : Leaves doc f (p.begin f.path) build) : (after (inSlot f.path build) p).Owned doc := by
  have hi : (p.begin f.path).memo.get? f.path = some (.inProgress p.catalog.nextId) := by
    rw [Progress.get?_memo_begin, if_pos rfl]
  unfold Ensures at he
  unfold Leaves at hb
  unfold after inSlot
  cases hrun : build (p.begin f.path) with
  | ok s p' =>
    rw [hrun] at he hb
    exact hb.complete he.1.coherent hh (he.1.entry _ _ hi)
  | error r p' =>
    rw [hrun] at he hb
    have hx := (Progress.Extends.begin hn).trans he.1.toExtends
    refine hb.abandon he.1.coherent (he.1.entry _ _ hi) fun j t hj ht r hr => ?_
    rw [hx.slot j hj] at ht
    exact h.coherent.lt_size_of_fills (h.coherent.closed j t ht r hr)

theorem preserves_classifyWithin (doc : Document) (stack : List Path) (name : String) (f : Fragment)
    (hh : doc.Holds f) : Preserves (Progress.Kept doc stack) (classifyWithin doc stack name f) := by
  induction hn : doc.unseen stack using Nat.strongRecOn generalizing stack name f with
  | ind n ih =>
    intro p h
    refine ⟨(classifies_classifyWithin doc stack p name f h.coherent hh).leads_after.coherent, ?_⟩
    unfold after
    rw [classifyWithin_apply]
    cases hm : p.memo.get? f.path with
    | some e => cases e <;> exact h.owned
    | none =>
      have hs := h.coherent.not_mem_stack hm
      have hat : doc.at? f.path = some f.value := hh
      dsimp only
      rw [if_pos ⟨by rw [hat]; rfl, hs⟩]
      have hlt := hn ▸ Document.unseen_cons_lt hat hs
      have hbelow : Agreeing doc (Progress.Kept doc (f.path :: stack))
          (classifyWithin doc (f.path :: stack)) (classifyWithin doc (f.path :: stack)) :=
        ⟨fun _ d _ h => kept_report h d, preserves_anySchema,
          fun name g hg => Preserves.agree (ih _ hlt _ name g hg rfl)⟩
      have hclassifies := classifies_classifyWithin doc (f.path :: stack)
      have hbegin : (p.begin f.path).Kept doc (f.path :: stack) :=
        ⟨h.coherent.begin hh hm, h.owned.begin hm⟩
      exact owned_inSlot h hh hm (ensures_build hclassifies hh hbegin.coherent name)
        (leaves_build hbelow hclassifies hbegin hh name)

theorem preserves_classifySlot (doc : Document) (slot : Path) (fallback : String) :
    Preserves (Progress.Kept doc []) (classifySlot doc slot fallback) := by
  have hnodes : Agreeing doc (Progress.Kept doc []) (classify doc) (classify doc) :=
    ⟨fun _ d _ h => kept_report h d, preserves_anySchema,
      fun name g hg => Preserves.agree (preserves_classifyWithin doc [] name g hg)⟩
  exact (agree_visitSlot hnodes slot fallback).preserves

/-- The fields of a form have the schemas of nodes. -/
theorem ensures_buildFields_idOf? (h : p.Coherent doc []) (fs : List Fragment) :
    Ensures doc [] p (buildFields doc fs)
      (fun fields p' => ∀ a ∈ fields, ∃ path, p'.idOf? path = some a.schema) True := by
  induction fs generalizing p with
  | nil => exact .pure h fun _ ha => (List.not_mem_nil ha).elim
  | cons f fs ih =>
    have hone : Ensures doc [] p (buildParameter doc f)
        (fun a p' => ∃ path, p'.idOf? path = some a.schema) True := by
      refine (ensures_buildParameter_shows h f).mono (fun a p' _ ha => ?_) id
      obtain ⟨slot, -, t, -, hid⟩ := ha
      exact ⟨t.path, hid⟩
    unfold buildFields
    refine hone.bind fun a p₁ hl₁ ha => (ih hl₁.coherent).bind fun as p₂ hl₂ has => ?_
    refine .pure hl₂.coherent (List.forall_mem_cons.mpr ⟨?_, has⟩)
    obtain ⟨path, hid⟩ := ha
    exact ⟨path, hl₂.idOf? hid⟩

theorem kept_gather (identity : Identity) (fs : List Fragment) (fields : List Parameter)
    (h : p.Kept doc []) (hrun : buildFields doc fs p = .ok fields p') (h' : p'.Kept doc []) :
    Progress.Kept doc [] { p' with catalog := p'.catalog.add (.undescribed (identity.joined ++ "Body")
      (.object (fields.map fieldProperty) none none)) } := by
  have hids := ensures_buildFields_idOf? h.coherent fs
  unfold Ensures at hids
  rw [hrun] at hids
  have hrefs : ∀ r ∈ (fields.map fieldProperty).map (·.schema), ∃ path, p'.idOf? path = some r := by
    intro r hr
    rw [List.map_map] at hr
    obtain ⟨a, ha, rfl⟩ := List.mem_map.mp hr
    exact hids.2 a ha
  constructor
  · refine (h'.coherent.leads_add (.form _ _) (by simp) fun r hr => ?_).coherent
    obtain ⟨path, hid⟩ := hrefs r hr
    exact h'.coherent.fills_of_idOf? hid
  · refine h'.owned.add (fun _ ha => ha) (Schema.not_isPart_form _ _) fun r hr hp => ?_
    obtain ⟨path, hid⟩ := hrefs r hr
    exact hp.free (List.mem_map.mpr ⟨_, h'.coherent.mem_reserved hid, rfl⟩)

end Classify

namespace Progress

variable {doc : Document} {p : Progress}

theorem Kept.declare (h : p.Kept doc []) (name : String) (v : Json) :
    Kept doc [] { p with catalog := (ServerVariable.declare name v p.catalog).2 } := by
  refine ⟨(h.coherent.leads_declare name v).1.coherent, ?_⟩
  have htext : ∀ description, ¬ (ServerVariable.textSchema name description).IsPart := fun description =>
    Schema.not_isPart_of_kind fun sec => by cases sec <;> exact id
  unfold ServerVariable.declare
  dsimp only
  have hadd := h.owned.add (fun _ ha => ha)
    (htext (v.description ServerVariable.missingDescription)) fun r hr => by cases hr
  split
  · exact hadd
  · refine hadd.add (fun _ ha => ha) (Schema.not_isPart_of_kind fun sec => ?_) fun r hr => ?_
    · cases sec <;> exact id
    · rw [List.mem_singleton.mp hr]
      refine not_partAt ?_ (htext (v.description ServerVariable.missingDescription))
      simp [Catalog.get?_add]

theorem preserving_kept (doc : Document) : PreservingSteps doc (Kept doc []) where
  report _ d _ h := Classify.kept_report h d
  say _ d _ _ h := Classify.kept_report h d
  classifySlot := Classify.preserves_classifySlot doc
  gather identity fs fields _ _ h hrun h' := Classify.kept_gather identity fs fields h hrun h'
  classify name f := Classify.preserves_classifyWithin doc [] name f.toFragment f.holds
  declare _ name v h := h.declare name v

/-- The part is what a keyword of the node says, by the ids of nodes that are done. -/
def Says (doc : Document) (p : Progress) (f : Fragment) (id : SchemaId) : Prop :=
  ∃ (name : String) (sec : Section) (kind : Schema.Kind),
    p.catalog.get? id = some (.undescribed s!"{name}.{sec.key}" kind) ∧
      p.finished.DepictsSection doc f sec (some kind)

/-- What has become of the node that owns a part: it is done and lists the part as a member, or it has
failed, and then no schema refers to the part. -/
inductive Fate (p : Progress) (f : Fragment) (id : SchemaId) : Prop
  | member {k : SchemaId} (hd : p.memo.get? f.path = some (.done k)) (hm : p.Lists k id)
  | leftover (hf : p.memo.get? f.path = some .failed)
      (hr : ∀ j t, p.catalog.get? j = some t → id ∉ t.references)

theorem Kept.fate (h : p.Kept doc []) {id : SchemaId} (hp : p.PartAt id) :
    ∃ f, doc.Holds f ∧ p.Says doc f id ∧ p.Fate f id := by
  obtain ⟨f, k, ho⟩ := h.owned id hp
  obtain ⟨name, sec, kind, hs, hd⟩ := ho.made
  refine ⟨f, ho.holds, ⟨name, sec, kind, hs, hd.mono h.coherent.le_finished⟩, ?_⟩
  rcases h.coherent.agrees _ _ ho.took with ⟨hi, -⟩ | ⟨hdone, -⟩ | ⟨hfail, hnone⟩
  · exact absurd hi (h.coherent.not_inProgress _ _)
  · refine .member hdone (ho.fate.resolve_left fun hfail => ?_)
    rw [hdone] at hfail
    cases hfail
  · refine .leftover hfail fun j t ht hr => ?_
    rw [ho.only j t ht hr, hnone] at ht
    cases ht

end Progress

namespace Document

theorem kept_after (doc : Document) (steps : List (Step doc)) :
    (doc.after steps).progress.Kept doc [] :=
  (Progress.preserving_kept doc).after ⟨.initial, .initial⟩ steps

/-- A part that a model stores is what a keyword of a node says; the node is done and lists the part, or
it has failed and nothing refers to the part. -/
theorem fate_of_part (doc : Document) (options : Options) (m : Model)
    (h : (doc.model options).result = .ok m) (id : SchemaId)
    (hp : (doc.fullDraft options).progress.PartAt id) :
    m.catalog = (doc.fullDraft options).progress.catalog ∧
      ∃ f, doc.Holds f ∧ (doc.fullDraft options).progress.Says doc f id ∧
        (doc.fullDraft options).progress.Fate f id := by
  obtain ⟨-, -, rfl⟩ := result_eq_ok_iff.mp h
  obtain ⟨steps, hsteps⟩ := doc.fullDraft_eq_after options
  have hkept := doc.kept_after steps
  rw [← hsteps] at hkept
  exact ⟨rfl, hkept.fate hp⟩

/-- `A` refers to `B` and fails for another property. `B` has `A` as a parent and is withdrawn with it,
but the part that holds its own properties does not refer to `A`. -/
def withLeftover : Document where
  root := .obj [("components", .obj [("schemas", .obj [
    ("A", .obj [("type", .str "object"), ("properties", .obj [
      ("b", .obj [("$ref", .str "#/components/schemas/B")]),
      ("bad", .obj [("type", .str "unknown")])])]),
    ("B", .obj [("type", .str "object"),
      ("allOf", .arr [.obj [("$ref", .str "#/components/schemas/A")]]),
      ("properties", .obj [("x", .obj [("type", .str "string")])])])])])]

theorem partAt_withLeftover : (withLeftover.fullDraft {}).progress.PartAt ⟨3⟩ := by
  refine ⟨?_, by decide +kernel⟩
  have hpart : ((withLeftover.fullDraft {}).progress.catalog.get? ⟨3⟩).any (·.IsPart) := by
    decide +kernel
  simpa [Option.any_eq_true] using hpart

theorem fate_of_part_withLeftover :
    (withLeftover.model {}).result = .ok (withLeftover.modelOf (withLeftover.fullDraft {})) ∧
      (withLeftover.fullDraft {}).progress.PartAt ⟨3⟩ ∧
      ∃ f, withLeftover.Holds f ∧ (withLeftover.fullDraft {}).progress.Says withLeftover f ⟨3⟩ ∧
        (withLeftover.fullDraft {}).progress.Fate f ⟨3⟩ := by
  have hrun : (withLeftover.model {}).result =
      .ok (withLeftover.modelOf (withLeftover.fullDraft {})) :=
    result_eq_ok_iff.mpr ⟨by decide +kernel, by decide +kernel, rfl⟩
  exact ⟨hrun, partAt_withLeftover,
    (fate_of_part withLeftover {} _ hrun ⟨3⟩ partAt_withLeftover).2⟩

/-- No stored schema has the part among its members, although the document has a model. -/
theorem part_without_object :
    (withLeftover.model {}).result = .ok (withLeftover.modelOf (withLeftover.fullDraft {})) ∧
      (withLeftover.fullDraft {}).progress.PartAt ⟨3⟩ ∧
      ¬ ∃ k, (withLeftover.fullDraft {}).progress.Lists k ⟨3⟩ := by
  refine ⟨result_eq_ok_iff.mpr ⟨by decide +kernel, by decide +kernel, rfl⟩, partAt_withLeftover, ?_⟩
  rintro ⟨⟨k⟩, t, members, ht, hk, hm⟩
  have hall : ∀ i < 5, ((withLeftover.fullDraft {}).progress.catalog.get? ⟨i⟩).all
      (·.kind.members.isEmpty) := by
    decide +kernel
  have hsize : (withLeftover.fullDraft {}).progress.catalog.slots.size = 5 := by decide +kernel
  have hlt : k < 5 := hsize ▸ Catalog.lt_size_of_get? ht
  have hnil := hall k hlt
  rw [ht, Option.all_some, hk] at hnil
  have hmembers : members = [] := List.isEmpty_iff.mp hnil
  rw [hmembers] at hm
  exact List.not_mem_nil hm

end Document

end ApiModel

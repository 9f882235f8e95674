import ApiModel.Proofs.Coherence
import ApiModel.Proofs.Remarks
import ApiModel.Proofs.Tracking

/-!
# What objects are founded on

The schema of an object says which members it has, but not that the slots of its parts were taken for it,
nor what was reported of it. `Founded` says both. It holds when the object is built, and nothing that
happens later gives such a slot to a node or takes back what was said, so it holds of every object that is
done (`founded_after`).

That no object is reported as empty twice is counted (`Unrepeated`): there are no more such reports at a
place than nodes that were begun there, and a node that is in progress has its own still before it.
-/

namespace ApiModel

open Classify (Section)

namespace Json

variable {v : Json} {key : String}

/-- The keyword makes a part of an object: it is a mapping or a list that is not empty, and for further
keys any value but null and `false`. -/
def Declares (v : Json) : Section → Prop
  | .properties => ∃ field fields, v.get? "properties" = some (.obj (field :: fields))
  | .additionalProperties =>
    ∃ w, v.get? "additionalProperties" = some w ∧ w ≠ .null ∧ w ≠ .bool false
  | .anyOf => ∃ item items, v.get? "anyOf" = some (.arr (item :: items))
  | .oneOf => ∃ item items, v.get? "oneOf" = some (.arr (item :: items))

/-- What a keyword declares, by what the classification asks of it. -/
theorem declares_iff {s : Section} : v.Declares s ↔
    match s with
    | .properties => v.hasEntries "properties"
    | .additionalProperties => v.additionalProperties ≠ .closed
    | .anyOf => v.hasItems "anyOf"
    | .oneOf => v.hasItems "oneOf" := by
  cases s with
  | properties => exact hasEntries_iff.symm
  | additionalProperties =>
    unfold additionalProperties Declares
    rcases v.get? "additionalProperties" with - | (- | (- | -) | - | - | - | (- | -)) <;> simp
  | anyOf | oneOf => exact hasItems_iff.symm

end Json

theorem Directory.DepictsSection.isSome_iff {doc : Document} {d : Directory} {f : Fragment}
    {s : Section} {kind? : Option Schema.Kind} (h : d.DepictsSection doc f s kind?) :
    kind?.isSome ↔ f.value.Declares s := by
  rw [Json.declares_iff]
  cases h with
  | properties h | noProperties h | anyValue h | values h | closed h | anyOf h | noAnyOf h | oneOf h
  | noOneOf h => simp [h]

namespace Classify

variable {doc : Document} {visit : Classifier} {f : Fragment} {α β : Type} {x : Classify α}
  {Q R : α → Prop} {S : β → Prop} {p p' : Progress}

/-- If the step comes to something, `R` holds of it. -/
def Yields (R : α → Prop) (x : Classify α) : Prop := ∀ p a p', x p = .ok a p' → R a

namespace Yields

theorem any (x : Classify α) : Yields (fun _ => True) x := fun _ _ _ _ => trivial

theorem pure {a : α} (h : R a) : Yields R (Pure.pure a) := fun _ _ _ hrun => by cases hrun; exact h

theorem reject (r : Rejection) (source : String) : Yields R (reject r source) :=
  fun _ _ _ hrun => by cases hrun

theorem bind {g : α → Classify β} (hx : Yields R x) (hg : ∀ a, R a → Yields S (g a)) :
    Yields S (x >>= g) := by
  intro p b q hrun
  obtain ⟨a, p', ha, hb⟩ := exists_of_bind_eq_ok hrun
  exact hg a (hx p a p' ha) p' b q hb

end Yields

theorem yields_visitItems (name : String) (i : Nat) {slots : List Path}
    (hd : ∀ slot ∈ slots, (doc.at? slot).isSome) :
    Yields (fun ids => ids.length = slots.length) (visitItems doc visit name i slots) := by
  induction slots generalizing i with
  | nil => exact .pure rfl
  | cons slot slots ih =>
    obtain ⟨hslot, hslots⟩ := List.forall_mem_cons.mp hd
    have hone : Yields (fun id? => id?.isSome) (visitSlot doc visit slot s!"{name}.{i}") := by
      unfold visitSlot
      cases hres : doc.resolve slot with
      | error r => exact .reject _ _
      | ok target =>
        cases target with
        | none => exact absurd hres (Document.resolve_ne_none hslot)
        | some t =>
          dsimp only
          rw [← bind_pure_comp]
          exact (Yields.any _).bind fun id _ => .pure rfl
    unfold visitItems
    refine hone.bind fun id? hid => (ih (i + 1) hslots).bind fun ids hids => .pure ?_
    obtain ⟨id, rfl⟩ := Option.isSome_iff_exists.mp hid
    simp [hids]

theorem yields_visitSection (name : String) (s : Section) :
    Yields (fun kind? => ∀ kind ∈ kind?, s.Makes kind) (visitSection doc visit name f s) := by
  have hsome : ∀ {kind : Schema.Kind}, s.Makes kind → ∀ kind' ∈ some kind, s.Makes kind' := by
    rintro kind hm _ ⟨⟩
    exact hm
  have hnone : ∀ kind ∈ (none : Option Schema.Kind), s.Makes kind := fun kind hk => by cases hk
  unfold visitSection
  cases s with
  | properties | anyOf | oneOf =>
    dsimp only
    split
    · exact (Yields.any _).bind fun _ _ => .pure (hsome trivial)
    · exact .pure hnone
  | additionalProperties =>
    dsimp only
    split
    · exact .pure hnone
    · exact (Yields.any _).bind fun _ _ => .pure (hsome trivial)
    · refine (Yields.any _).bind fun id? _ => .pure ?_
      cases id? with
      | none => exact hnone
      | some id => exact hsome trivial

theorem visitSection_of_silent {s : Section} (h : ¬ f.value.Declares s) (name : String) :
    visitSection doc visit name f s = pure none := by
  rw [Json.declares_iff] at h
  unfold visitSection
  cases s with
  | additionalProperties => simp [not_not.mp h]
  | properties | anyOf | oneOf => exact if_neg h

theorem yields_visitSections (name : String) (sections : List Section) :
    Yields (fun parts => (∀ part ∈ parts, part.1.Makes part.2) ∧
        ((∀ s ∈ sections, ¬ f.value.Declares s) → parts = []))
      (visitSections doc visit name f sections) := by
  induction sections with
  | nil => exact .pure ⟨fun _ hm => (List.not_mem_nil hm).elim, fun _ => rfl⟩
  | cons s sections ih =>
    have hone : Yields (fun kind? => (∀ kind ∈ kind?, s.Makes kind) ∧
        (¬ f.value.Declares s → kind? = none)) (visitSection doc visit name f s) := by
      intro p kind? p' hrun
      refine ⟨yields_visitSection name s p kind? p' hrun, fun hs => ?_⟩
      rw [visitSection_of_silent hs] at hrun
      cases hrun
      rfl
    unfold visitSections
    refine hone.bind fun kind? hkind => ih.bind fun parts hparts => .pure ⟨fun part hm => ?_, fun hs => ?_⟩
    · rcases List.mem_append.mp hm with hm | hm
      · obtain ⟨kind, hk, rfl⟩ := List.mem_map.mp hm
        exact hkind.1 kind (Option.mem_toList.mp hk)
      · exact hparts.1 part hm
    · obtain ⟨hsilent, hrest⟩ := List.forall_mem_cons.mp hs
      rw [hkind.2 hsilent, hparts.2 hrest]
      rfl

/-- The parts of an object take slots of their own that were not there before. -/
theorem addParts_takes_new (name : String) (parts : List (Section × Schema.Kind)) (p : Progress) :
    ∃ ids p', addParts name parts p = .ok ids p' ∧ p'.reserved = p.reserved ∧
      p.catalog.slots.size ≤ p'.catalog.slots.size ∧ ids.Nodup ∧
      ∀ r ∈ ids, p.catalog.slots.size ≤ r.index ∧ r.index < p'.catalog.slots.size := by
  induction parts generalizing p with
  | nil => exact ⟨[], p, rfl, rfl, Nat.le_refl _, .nil, fun _ hm => (List.not_mem_nil hm).elim⟩
  | cons part parts ih =>
    obtain ⟨s, kind⟩ := part
    obtain ⟨ids, p', hrun, hr, hle, hn, hids⟩ :=
      ih { p with catalog := p.catalog.add (.undescribed s!"{name}.{s.key}" kind) }
    simp only [Catalog.size_slots_add] at hle hids
    have hadd : addSchema (.undescribed s!"{name}.{s.key}" kind) p = .ok p.catalog.nextId
        { p with catalog := p.catalog.add (.undescribed s!"{name}.{s.key}" kind) } := rfl
    have hnew : p.catalog.nextId ∉ ids := fun hm => Nat.not_succ_le_self _ (hids _ hm).1
    refine ⟨p.catalog.nextId :: ids, p', ?_, hr, by omega, List.nodup_cons.mpr ⟨hnew, hn⟩,
      List.forall_mem_cons.mpr ⟨?_, fun r hm => ?_⟩⟩
    · unfold addParts
      rw [run_bind_ok hadd, run_bind_ok hrun]
      rfl
    · exact ⟨Nat.le_refl _, hle⟩
    · have := hids r hm
      omega

end Classify

/-! ### Founded objects -/

/-- What is reported of an object that declares nothing. -/
def Fragment.emptyObject (f : Fragment) (name : String) : Diagnostic :=
  ⟨.warning, .emptyObject, s!"The schema '{name}' declares no properties and no members", f.pointer⟩

namespace Progress

variable {doc : Document} {f : Fragment} {s : Schema} {p p' : Progress} {stack : List Path}

structure Founded (doc : Document) (f : Fragment) (s : Schema) (p : Progress) : Prop where
  /-- What an object lists behind its parents are distinct slots that no node took. -/
  own : ∀ members, s.kind = .allOf members →
    (members.drop (doc.items (f.slot "allOf")).length).Nodup ∧
      ∀ r ∈ members.drop (doc.items (f.slot "allOf")).length,
        r.index < p.catalog.slots.size ∧ r ∉ p.reserved.map (·.2)
  /-- An object that declares nothing was reported. -/
  said : doc.items (f.slot "allOf") = [] → (∀ sec, ¬ f.value.Declares sec) →
    f.emptyObject s.name ∈ p.diagnostics.toList

/-- Every object that is done is founded. -/
def AllFounded (doc : Document) (p : Progress) : Prop :=
  ∀ f id s, doc.Holds f → f.value.form = .object → p.memo.get? f.path = some (.done id) →
    p.catalog.get? id = some s → p.Founded doc f s

theorem Founded.mono (h : p.Founded doc f s)
    (hle : p.catalog.slots.size ≤ p'.catalog.slots.size)
    (hr : ∀ r, r.index < p.catalog.slots.size → r ∈ p'.reserved.map (·.2) → r ∈ p.reserved.map (·.2))
    (hd : p.diagnostics.toList ⊆ p'.diagnostics.toList) : p'.Founded doc f s where
  own members hk := by
    obtain ⟨hn, hfree⟩ := h.own members hk
    refine ⟨hn, fun r hm => ?_⟩
    obtain ⟨hlt, hnew⟩ := hfree r hm
    exact ⟨Nat.lt_of_lt_of_le hlt hle, fun hm' => hnew (hr r hlt hm')⟩
  said hi hs := hd (h.said hi hs)

theorem Founded.of_eq (h : p.Founded doc f s)
    (hle : p.catalog.slots.size ≤ p'.catalog.slots.size) (hr : p'.reserved = p.reserved)
    (hd : p'.diagnostics = p.diagnostics) : p'.Founded doc f s :=
  h.mono hle (fun _ _ hm => hr ▸ hm) (hd ▸ List.Subset.refl _)

namespace AllFounded

theorem initial : ({} : Progress).AllFounded doc :=
  fun f id s _ _ hd => by simp [Memo.get?, Assoc.get?] at hd

theorem report (h : p.AllFounded doc) (d : Diagnostic) : (p.report d).AllFounded doc :=
  fun f id s hf hform hd hs => (h f id s hf hform hd hs).mono (Nat.le_refl _) (fun _ _ hm => hm)
    fun d' hm => by
      rw [Progress.report, Array.toList_push]
      exact List.mem_append_left _ hm

theorem add (h : p.AllFounded doc) (hl : p.Ledger stack) (s : Schema) (any? : Option SchemaId) :
    AllFounded doc { p with catalog := p.catalog.add s, anyId := any? } := by
  intro f id t hf hform hd ht
  have hlt : id.index < p.catalog.slots.size := hl.lt_size_of_idOf? (idOf?_of_done hd)
  simp only [Catalog.get?_add, if_neg (Catalog.ne_nextId hlt)] at ht
  refine (h f id t hf hform hd ht).of_eq ?_ rfl rfl
  simp [Catalog.size_slots_add]

theorem begin (h : p.AllFounded doc) (path : Path) : (p.begin path).AllFounded doc := by
  intro f id s hf hform hd hs
  rw [get?_memo_begin] at hd
  rw [get?_catalog_begin] at hs
  split at hd
  · cases hd
  · refine (h f id s hf hform hd hs).mono ?_ (fun r hlt hm => ?_) (List.Subset.refl _)
    · simp [Progress.begin, Catalog.reserve]
    · exact (List.mem_cons.mp hm).resolve_left (Catalog.ne_nextId hlt)

theorem complete (h : p.AllFounded doc) (hl : p.Ledger stack) (hf : doc.Holds f)
    {id : SchemaId} (hi : p.memo.get? f.path = some (.inProgress id))
    (hs : f.value.form = .object → p.Founded doc f s) : (p.complete f.path id s).AllFounded doc := by
  have hid := idOf?_of_inProgress hi
  intro g j t hg hform hd ht
  rw [get?_catalog_complete _ _ _ (hl.lt_size_of_idOf? hid)] at ht
  rw [get?_memo_complete] at hd
  have hsize : p.catalog.slots.size ≤ (p.complete f.path id s).catalog.slots.size := by
    simp [Progress.complete, Catalog.fill]
  split at hd
  · rename_i he
    cases hd
    rw [if_pos rfl] at ht
    cases ht
    cases hf.eq hg he
    exact (hs hform).of_eq hsize rfl rfl
  · rename_i he
    have hne : j ≠ id := by
      rintro rfl
      exact he (hl.eq_of_idOf? hid (idOf?_of_done hd))
    rw [if_neg hne] at ht
    exact (h g j t hg hform hd ht).of_eq hsize rfl rfl

theorem abandon (h : p.AllFounded doc) (path : Path) (id : SchemaId) :
    (p.abandon path id).AllFounded doc := by
  intro g j t hg hform hd ht
  rw [get?_memo_abandon] at hd
  split at hd
  · cases hd
  · exact (h g j t hg hform (Memo.map_failValues_eq_done_iff.mp hd).1
      (get?_catalog_abandon_eq_some_iff.mp ht).1).of_eq (by simp) rfl rfl

end AllFounded

end Progress

namespace Classify

open Progress (Founded AllFounded Tracked)

variable {doc : Document} {visit : Classifier} {f : Fragment} {s : Schema} {p p' : Progress}
  {i : List Path × Progress}

theorem founded_assemble (name : String) {parents : List SchemaId}
    {parts : List (Section × Schema.Kind)} (hl : p.Ledger i.1)
    (hparents : parents.length = (doc.items (f.slot "allOf")).length)
    (hmakes : ∀ part ∈ parts, part.1.Makes part.2)
    (hsilent : (∀ sec, ¬ f.value.Declares sec) → parts = [])
    (hrun : assemble name f parents parts p = .ok s p') : p'.Founded doc f s := by
  have members : (parents ≠ [] ∨ parts ≠ []) →
      (addParts name parts >>= fun ids =>
        pure (Schema.describedBy name f.value (.allOf (parents ++ ids)))) p = .ok s p' →
      p'.Founded doc f s := by
    intro hne hrun
    obtain ⟨ids, q, hadd, hr, -, hn, hids⟩ := addParts_takes_new name parts p
    rw [run_bind_ok hadd] at hrun
    cases hrun
    refine ⟨fun members hk => ?_, fun hi hs => ?_⟩
    · cases hk
      rw [← hparents, List.drop_left]
      refine ⟨hn, fun r hm => ⟨(hids r hm).2, fun hres => ?_⟩⟩
      rw [hr] at hres
      exact Nat.lt_irrefl _ (Nat.lt_of_lt_of_le (hl.lt_size r hres) (hids r hm).1)
    · rw [hi] at hparents
      exact (hne.elim (absurd (List.eq_nil_of_length_eq_zero hparents)) (absurd (hsilent hs)))
  match parents, parts with
  | [], [] =>
    cases hrun
    have hm : f.emptyObject name ∈ (p.report (f.emptyObject name)).diagnostics.toList := by
      rw [Progress.report, Array.toList_push]
      exact List.mem_append_right _ (List.mem_singleton_self _)
    exact ⟨fun members hk => (by cases hk), fun _ _ => hm⟩
  | [], [(sec, kind)] =>
    cases hrun
    have hm := hmakes _ (List.mem_singleton_self _)
    refine ⟨fun members hk => ?_, fun _ hs => by cases hsilent hs⟩
    rw [show kind = .allOf members from hk] at hm
    cases sec <;> exact hm.elim
  | [], _ :: _ :: _ => exact members (.inr (by simp)) hrun
  | _ :: _, _ => exact members (.inl (by simp)) hrun

theorem founded_build {name : String} (hv : Agreeing doc (Tracked (AllFounded doc) i) visit visit)
    (h : p.Tracked (AllFounded doc) i) (hform : f.value.form = .object)
    (hrun : build doc visit name f p = .ok s p') : p'.Founded doc f s := by
  have hsaid : Preserves (Tracked (AllFounded doc) i)
      (f.value.correction?.forM fun c => report (c.diagnostic name f.pointer)) := by
    cases f.value.correction? with
    | none => exact .pure _
    | some c =>
      exact preserves_report fun q hq =>
        ⟨hq.ledger.of_slots rfl rfl rfl (Nat.le_refl _) fun _ _ => rfl, hq.remembers.of_eq rfl rfl,
          hq.holds.report _⟩
  rw [build_eq] at hrun
  obtain ⟨_, p₀, hrun₀, hrun⟩ := exists_of_bind_eq_ok hrun
  have h₀ := hsaid p h
  rw [after_of_ok hrun₀] at h₀
  unfold buildForm at hrun
  rw [hform] at hrun
  dsimp only at hrun
  unfold buildObject at hrun
  split at hrun
  · cases hrun
  · obtain ⟨parents, p₁, hparents, hrun⟩ := exists_of_bind_eq_ok hrun
    obtain ⟨parts, p₂, hparts, hrun⟩ := exists_of_bind_eq_ok hrun
    have h₁ := (agree_visitMembers (f := f) hv name "allOf").preserves _ h₀
    rw [after_of_ok hparents] at h₁
    have h₂ := (agree_visitSections (f := f) hv name Section.all).preserves _ h₁
    rw [after_of_ok hparts] at h₂
    have hlength := yields_visitItems _ 0 (fun _ => Document.isSome_at?_of_mem_items) _ _ _ hparents
    obtain ⟨hmakes, hsilent⟩ := yields_visitSections name Section.all _ _ _ hparts
    exact founded_assemble name h₂.ledger hlength hmakes (fun hs => hsilent fun sec _ => hs sec) hrun

theorem tracks_founded (doc : Document) :
    Tracks doc (AllFounded doc) fun f s p => f.value.form = .object → p.Founded doc f s where
  report d h := h.report d
  add s any? hl _ h := h.add hl s any?
  begin _ _ h := h.begin _
  complete hl hf hi hs h := h.complete hl hf hi hs
  abandon _ _ h := h.abandon _ _
  build hv h hrun hform := founded_build hv h hform hrun

end Classify

/-! ### Empty objects are reported once -/

namespace Progress

variable {doc : Document} {p q : Progress} {pending : List Path} {path : Path} {d : Diagnostic}

/-- What was reported of an object at a path that declares nothing. -/
def emptyObjects (p : Progress) (path : Path) : List Diagnostic :=
  p.diagnostics.toList.filter fun d => d.code = .emptyObject ∧ d.source = Pointer.ofPath path

theorem emptyObjects_report (p : Progress) (d : Diagnostic) (path : Path) :
    (p.report d).emptyObjects path = p.emptyObjects path ++
      if d.code = .emptyObject ∧ d.source = Pointer.ofPath path then [d] else [] := by
  rw [emptyObjects, Progress.report, Array.toList_push, List.filter_append, List.filter_singleton]
  simp [emptyObjects]

/-- There was one report for each node that was begun, but none yet for the nodes that are pending. -/
def Unrepeated (pending : List Path) (p : Progress) : Prop :=
  ∀ path, (p.emptyObjects path).length + pending.count path ≤ (p.reserved.map (·.1)).count path

namespace Unrepeated

theorem initial : Unrepeated [] {} := fun _ => Nat.le_refl _

theorem of_eq (h : Unrepeated pending p) (hd : q.diagnostics = p.diagnostics)
    (hr : q.reserved = p.reserved) : Unrepeated pending q := by
  intro path
  rw [emptyObjects, hd, hr]
  exact h path

theorem begin (h : Unrepeated pending p) (path : Path) :
    Unrepeated (path :: pending) (p.begin path) := by
  intro path'
  have hp : (p.emptyObjects path').length + pending.count path' ≤
      (p.reserved.map (·.1)).count path' := h path'
  have hsame : (p.begin path).emptyObjects path' = p.emptyObjects path' := rfl
  rw [hsame, Progress.begin, List.map_cons, List.count_cons, List.count_cons]
  dsimp only
  omega

theorem finish (h : Unrepeated (path :: pending) p) : Unrepeated pending p := by
  intro path'
  have hp := h path'
  rw [List.count_cons] at hp
  omega

theorem report (h : Unrepeated pending p) (hd : d.code ≠ .emptyObject) :
    Unrepeated pending (p.report d) := by
  intro path
  rw [emptyObjects_report, if_neg fun hc => hd hc.1, List.append_nil]
  exact h path

/-- What is reported of a node takes the place that was kept for it. -/
theorem reportOf (h : Unrepeated (path :: pending) p) (hs : d.source = Pointer.ofPath path) :
    Unrepeated pending (p.report d) := by
  intro path'
  have hp := h path'
  rw [List.count_cons] at hp
  rw [emptyObjects_report, List.length_append]
  split
  · rename_i hc
    have he : path = path' := Pointer.ofPath_injective (hs.symm.trans hc.2)
    simp only [he, beq_self_eq_true, if_true] at hp
    simp only [List.length_singleton]
    have hsame : (p.report d).reserved = p.reserved := rfl
    rw [hsame]
    omega
  · have hsame : (p.report d).reserved = p.reserved := rfl
    rw [hsame, List.length_nil]
    omega

end Unrepeated

end Progress

namespace Classify

open Progress (Unrepeated)

variable {doc : Document} {pending : List Path} {f : Fragment}

theorem ignoresSchemas_unrepeated : IgnoresSchemas (Unrepeated pending) :=
  fun _ _ _ hr hd h => h.of_eq hd hr

theorem agreeing_unrepeated {visit : Classifier}
    (hv : ∀ name g, doc.Holds g → Preserves (Unrepeated pending) (visit name g)) :
    Agreeing doc (Unrepeated pending) visit visit where
  report p d hd h := h.report (by rw [hd]; decide)
  any := ignoresSchemas_unrepeated.admits.anySchema
  visit name g hg := (hv name g hg).agree

theorem preserves_classifyWithin_unrepeated (stack pending : List Path) (name : String)
    (hf : doc.Holds f) : Preserves (Unrepeated pending) (classifyWithin doc stack name f) := by
  refine preserves_classifyWithin_of_build (fun visit name f _ hv pending p h _ => ?_) stack pending
    name hf
  have hform : Turns (Unrepeated (f.path :: pending)) (Unrepeated pending)
      (buildForm doc visit name f) :=
    turns_buildForm ignoresSchemas_unrepeated.admits (fun _ h => h.finish)
      (fun _ _ hs _ _ h => h.reportOf hs) (agreeing_unrepeated (hv _)) name
  have hbuilt : Unrepeated pending (after (build doc visit name f) (p.begin f.path)) := by
    rw [build_eq]
    cases f.value.correction? with
    | none => exact hform _ (h.begin f.path)
    | some c => exact hform _ ((h.begin f.path).report (Correction.code_ne_of_ne (by decide)))
  exact after_inSlot hbuilt (fun _ _ _ h => h.of_eq rfl rfl) fun _ _ h => h.of_eq rfl rfl

theorem preserving_unrepeated (doc : Document) : PreservingSteps doc (Unrepeated []) where
  toPreservingSlots := ignoresSchemas_unrepeated.preservingSlots
    (fun _ d hd h => h.report fun hc => by rw [hc] at hd; cases hd) fun slot fallback =>
      (agree_visitSlot (agreeing_unrepeated fun name _ hg =>
        preserves_classifyWithin_unrepeated [] [] name hg) slot fallback).preserves
  say _ d r hr h := h.report fun hc => by rw [hc] at hr; cases r <;> cases hr
  classify name f := preserves_classifyWithin_unrepeated [] [] name f.holds

end Classify

namespace Document

theorem founded_after (doc : Document) (steps : List (Step doc)) :
    (doc.after steps).progress.AllFounded doc :=
  (((Classify.tracks_founded doc).steps fun s any? hl h => h.add hl s any?).after
    ⟨.initial, .refl _, .initial⟩ steps).holds

/-- An object is reported as empty at most once. -/
theorem length_emptyObjects_le_one (doc : Document) (steps : List (Step doc)) (path : Path) :
    ((doc.after steps).progress.emptyObjects path).length ≤ 1 := by
  have hcount := (Classify.preserving_unrepeated doc).after .initial steps path
  -- No node is begun twice.
  have hnodup := (doc.sound_after steps).coherent.nodup_paths
  exact Nat.le_trans (Nat.le_trans (Nat.le_add_right ..) hcount) (List.nodup_iff_count_le_one.mp hnodup path)

end Document

end ApiModel

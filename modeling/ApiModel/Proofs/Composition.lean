import ApiModel.Proofs.Founding
import ApiModel.Proofs.Leftovers
import ApiModel.Proofs.Persistence

/-!
# How objects are composed

An object that is done is composed of what it declares (`ComposedOf`): its parents are the ids of the
items of `allOf`, each keyword that declares something makes one part, and these come together in one
of three ways (`Composes`). That nothing else is stored for the object is known from the owners of the
parts, and that the slots of its parts are new from what it was founded on.

An object that declares both `oneOf` and `properties` is not composed at all. It is rejected before
anything below it is looked at, so the same becomes of it with any classifier for what lies below, and
nothing becomes of any other node.
-/

namespace ApiModel

open Classify (Section)

namespace Progress

variable {doc : Document} {p p' : Progress} {f : Fragment} {id r : SchemaId} {name : String}
  {parents : List SchemaId} {parts : List (Section × Schema.Kind)} {kind : Schema.Kind}

/-- No part is stored for the node: each that is stored is another's. -/
def OwnsNoPart (doc : Document) (p : Progress) (f : Fragment) : Prop :=
  ∀ id, p.PartAt id → ∃ g, doc.Holds g ∧ g.path ≠ f.path ∧ p.Says doc g id ∧ p.Fate g id

/-- How the object at `id` comes of its parents and parts. With neither it is an empty object, of which
there is one report. A single part without parents is the object itself. All others have their parents
and then their parts as members; each part then has a slot of its own, which no node took and to which
nothing else refers. -/
inductive Composes (doc : Document) (p : Progress) (f : Fragment) (id : SchemaId) (name : String) :
    List SchemaId → List (Section × Schema.Kind) → Schema.Kind → Prop
  | empty (hw : p.emptyObjects f.path = [f.emptyObject name]) (hn : p.OwnsNoPart doc f) :
      Composes doc p f id name [] [] (.object [] none none)
  | single (s : Section) (kind : Schema.Kind) (hn : p.OwnsNoPart doc f) :
      Composes doc p f id name [] [(s, kind)] kind
  | members {parents ids : List SchemaId} {parts : List (Section × Schema.Kind)}
      (h : parents ≠ [] ∨ 2 ≤ parts.length)
      (hi : List.Forall₂ (p.finished.HoldsPart name) ids parts) (hd : ids.Nodup)
      (hr : ∀ r ∈ ids, r ∉ p.reserved.map (·.2))
      (ho : ∀ r ∈ ids, ∀ j t, p.catalog.get? j = some t → r ∈ t.references → j = id) :
      Composes doc p f id name parents parts (.allOf (parents ++ ids))

/-- The object at `id` has the parents that `allOf` lists, and one part for each keyword that declares
something. -/
structure ComposedOf (doc : Document) (p : Progress) (f : Fragment) (id : SchemaId) (name : String)
    (parents : List SchemaId) (kinds : Section → Option Schema.Kind) (kind : Schema.Kind) : Prop where
  stored : p.catalog.get? id = some (.describedBy name f.value kind)
  lists : List.Forall₂ (p.finished.Shows doc) (doc.items (f.slot "allOf")) parents
  sections : ∀ s, p.finished.DepictsSection doc f s (kinds s)
  declared : ∀ s, (kinds s).isSome ↔ f.value.Declares s
  whole : p.Composes doc f id name parents (Directory.partsOf kinds Section.all) kind

/-- The node was given up, and nothing became of any other. -/
structure GivesUp (p : Progress) (f : Fragment) (p' : Progress) : Prop where
  failed : p'.memo.get? f.path = some .failed
  nodes : ∀ path, path ≠ f.path → p'.memo.get? path = p.memo.get? path
  begun : ∀ path id, (path, id) ∈ p'.reserved → (path, id) ∈ p.reserved ∨ path = f.path
  slots : ∀ id, p'.catalog.get? id = p.catalog.get? id

end Progress

theorem Schema.isPart_undescribed (name : String) {s : Section} {kind : Schema.Kind}
    (h : s.Makes kind) : (Schema.undescribed s!"{name}.{s.key}" kind).IsPart := by
  refine ⟨s, s.mem_all, h, name.toList, ?_⟩
  simp [Schema.undescribed, toString]

namespace Progress

section

variable {doc : Document} {p : Progress} {f : Fragment} {id r : SchemaId} {s : Schema} {name : String}
  {parents : List SchemaId} {parts : List (Section × Schema.Kind)} {kind : Schema.Kind}

theorem Kept.ownsNoPart (h : p.Kept doc []) (hf : doc.Holds f)
    (hd : p.memo.get? f.path = some (.done id)) (hs : p.catalog.get? id = some s)
    (hk : ∀ members, s.kind ≠ .allOf members) : p.OwnsNoPart doc f := by
  intro r hp
  obtain ⟨g, hg, hsays, hfate⟩ := h.fate hp
  refine ⟨g, hg, fun he => ?_, hsays, hfate⟩
  cases hg.eq hf he
  cases hfate with
  | leftover hfail =>
    rw [hd] at hfail
    cases hfail
  | member hdone hlists =>
    obtain ⟨t, members, ht, hkind, -⟩ := hlists
    cases hd.symm.trans hdone
    cases hs.symm.trans ht
    exact hk members hkind

/-- Only the slot that lists a part refers to it. -/
theorem Kept.eq_of_lists (h : p.Kept doc []) (hp : p.PartAt r) (hs : p.catalog.get? id = some s)
    (hr : r ∈ s.references) {j : SchemaId} {t : Schema} (ht : p.catalog.get? j = some t)
    (hm : r ∈ t.references) : j = id := by
  obtain ⟨g, k, ho⟩ := h.owned r hp
  rw [ho.only j t ht hm, ho.only id s hs hr]

theorem Kept.composes (h : p.Kept doc []) (hf : doc.Holds f)
    (hd : p.memo.get? f.path = some (.done id))
    (hs : p.catalog.get? id = some (.describedBy name f.value kind))
    (hfound : p.Founded doc f (.describedBy name f.value kind))
    (honce : (p.emptyObjects f.path).length ≤ 1)
    (hp : List.Forall₂ (p.finished.Shows doc) (doc.items (f.slot "allOf")) parents)
    (hmakes : ∀ part ∈ parts, part.1.Makes part.2)
    (hsilent : parts = [] → ∀ sec, ¬ f.value.Declares sec)
    (ha : p.finished.Assembles name parents parts kind) :
    p.Composes doc f id name parents parts kind := by
  have hown := h.ownsNoPart hf hd hs
  cases ha with
  | empty =>
    -- A report was made when the object was built, and there is never a second one.
    have hitems : doc.items (f.slot "allOf") = [] := List.eq_nil_of_length_eq_zero hp.length_eq
    have hsaid : f.emptyObject name ∈ p.emptyObjects f.path :=
      List.mem_filter.mpr ⟨hfound.said hitems (hsilent rfl), by simp [Fragment.emptyObject,
        Fragment.pointer]⟩
    refine .empty ?_ (hown fun members hk => by cases hk)
    obtain ⟨d, hone⟩ := List.length_eq_one_iff.mp
      (Nat.le_antisymm honce (List.length_pos_of_mem hsaid))
    rw [hone] at hsaid ⊢
    rw [List.mem_singleton.mp hsaid]
  | single sec kind =>
    have hm := hmakes _ (List.mem_singleton_self _)
    refine .single sec kind (hown fun members hk => ?_)
    rw [show kind = .allOf members from hk] at hm
    cases sec <;> exact hm.elim
  | @members _ ids _ hlen hi =>
    -- The slots behind the parents are those that the object was founded on. Their schemas are parts, so
    -- they have an owner, and it is the slot that lists them.
    have hdrop : (parents ++ ids).drop (doc.items (f.slot "allOf")).length = ids := by
      rw [hp.length_eq, List.drop_left]
    obtain ⟨hnodup, hfree⟩ := hfound.own _ rfl
    rw [hdrop] at hnodup hfree
    refine .members hlen hi hnodup (fun r hr => (hfree r hr).2) fun r hr j t ht hm => ?_
    obtain ⟨part, hpart, hholds⟩ := exists_right_of_forall₂ hi hr
    have hat : p.PartAt r :=
      ⟨⟨_, hholds, Schema.isPart_undescribed name (hmakes part hpart)⟩, (hfree r hr).2⟩
    exact h.eq_of_lists hat hs (List.mem_append_right _ hr) ht hm

end

end Progress

/-! ### Ambiguous objects -/

/-- What is reported of an object that declares both `oneOf` and `properties`. -/
def Fragment.ambiguity (f : Fragment) (name : String) : List Diagnostic :=
  f.value.correction?.toList.map (·.diagnostic name f.pointer) ++
    (Rejection.ambiguousOneOf name).diagnostics f.pointer

namespace Progress

variable {doc : Document} {p p' : Progress} {f : Fragment}

theorem GivesUp.refl (h : p.memo.get? f.path = some .failed) : p.GivesUp f p :=
  ⟨h, fun _ _ => rfl, fun _ _ hr => .inl hr, fun _ => rfl⟩

/-- A node of which something was only said is given up alone: no slot was taken after its own. -/
theorem givesUp_of_eq (hc : p'.catalog = (p.begin f.path).catalog)
    (hm : p'.memo = (p.begin f.path).memo) (hr : p'.reserved = (p.begin f.path).reserved) :
    p.GivesUp f (p'.abandon f.path p.catalog.nextId) := by
  have hlast : p'.catalog.withdraw p.catalog.nextId = ([], p'.catalog) := by
    refine Catalog.withdraw_of_none (Catalog.dangling?_of_last fun id hlt => ?_)
    rw [hc, get?_catalog_begin]
    exact Option.eq_none_iff_forall_ne_some.mpr fun s hs =>
      Nat.lt_asymm hlt (Catalog.lt_size_of_get? hs)
  refine ⟨?failed, fun path hne => ?nodes, fun path id hmem => ?begun, fun id => ?slots⟩
  case failed => rw [get?_memo_abandon, if_pos rfl]
  case nodes =>
    rw [get?_memo_abandon, if_neg hne.symm, hlast, hm, get?_memo_begin, if_neg hne.symm]
    rcases p.memo.get? path with - | (id | id | -) <;> simp [Memo.Entry.failValues]
  case begun =>
    have hmem' : (path, id) ∈ (p.begin f.path).reserved := hr ▸ hmem
    exact (List.mem_cons.mp hmem').symm.imp_right fun he => congrArg Prod.fst he
  case slots =>
    rw [get?_catalog_abandon, hlast, if_neg List.not_mem_nil, hc, get?_catalog_begin]

end Progress

namespace Classify

variable {doc : Document} {stack : List Path} {p : Progress} {f : Fragment}

/-- An ambiguous object is rejected whatever the classifier of the nodes below it does. -/
theorem build_of_ambiguous (hform : f.value.form = .object) (ha : Document.isAmbiguous f)
    (visit : Classifier) (name : String) (p : Progress) :
    build doc visit name f p =
      .error (.ambiguousOneOf name) ((f.ambiguity name).foldl Progress.report p) := by
  have hobject : buildForm doc visit name f = reject (.ambiguousOneOf name) f.pointer := by
    unfold buildForm
    rw [hform]
    exact if_pos ha
  rw [build_eq, hobject]
  unfold Fragment.ambiguity
  cases f.value.correction? <;> rfl

theorem classifyWithin_of_ambiguous (h : p.Coherent doc stack) (hf : doc.Holds f)
    (hform : f.value.form = .object) (ha : Document.isAmbiguous f) (hs : f.path ∉ stack)
    (name : String) :
    ∃ r p', classifyWithin doc stack name f p = .error r p' ∧ p.GivesUp f p' ∧
      (p.memo.get? f.path = none → r = .ambiguousOneOf name ∧
        p'.diagnostics.toList = p.diagnostics.toList ++ f.ambiguity name) := by
  rw [classifyWithin_apply]
  cases hm : p.memo.get? f.path with
  | some e =>
    cases e with
    | inProgress id => exact absurd ((h.mem_stack _).mpr ⟨id, hm⟩) hs
    | done id =>
      -- What depicts the node would have to be composed of both keywords.
      obtain ⟨s, -, hdep⟩ := h.depicts f id hf hm
      refine absurd (.inl ?_) hdep.not_invalid
      unfold Document.IllFormed
      rw [hform]
      exact ha
    | failed => exact ⟨_, p, rfl, .refl hm, fun hn => by cases hn⟩
  | none =>
    have hat : doc.at? f.path = some f.value := hf
    dsimp only
    rw [if_pos ⟨by rw [hat]; rfl, hs⟩]
    unfold inSlot
    rw [build_of_ambiguous hform ha]
    refine ⟨_, _, rfl, Progress.givesUp_of_eq ?_ ?_ ?_, fun _ => ⟨rfl, ?_⟩⟩
    · exact Progress.catalog_foldl_report ..
    · exact Progress.memo_foldl_report ..
    · exact Progress.reserved_foldl_report ..
    · exact Progress.diagnostics_foldl_report ..

end Classify

/-! ### All objects of a document -/

namespace Document

variable {doc : Document} {f : Fragment} {id : SchemaId}

theorem isAmbiguous_of_declares (ho : f.value.Declares .oneOf) (hp : f.value.Declares .properties) :
    isAmbiguous f := by
  rw [Json.declares_iff] at ho hp
  simp only [isAmbiguous, Bool.and_eq_true]
  exact ⟨ho, hp⟩

theorem composedOf_after (doc : Document) (steps : List (Step doc)) (hf : doc.Holds f)
    (hform : f.value.form = .object)
    (hd : (doc.after steps).progress.memo.get? f.path = some (.done id)) :
    ∃ name parents kinds kind,
      (doc.after steps).progress.ComposedOf doc f id name parents kinds kind := by
  have hkept := doc.kept_after steps
  obtain ⟨s, hs, hdep⟩ := hkept.coherent.depicts f id hf hd
  have hfound := doc.founded_after steps f id s hf hform hd hs
  have honce := doc.length_emptyObjects_le_one steps f.path
  cases hdep.mono hkept.coherent.le_finished with
  | choice h | plain h | array h => rw [h] at hform; cases hform
  | @object name parents kinds kind _ hn hp hsec ha =>
    have hdeclared : ∀ sec, (kinds sec).isSome ↔ f.value.Declares sec := fun sec => (hsec sec).isSome_iff
    refine ⟨name, parents, kinds, kind, hs, hp, hsec, hdeclared, ?_⟩
    refine hkept.composes hf hd hs hfound honce hp (fun part hm => ?_) (fun hnil sec hsaid => ?_) ha
    · exact (Directory.DepictsSection.of_mem_partsOf (fun sec _ => hsec sec) hm).makes
    · obtain ⟨kind', hk⟩ := Option.isSome_iff_exists.mp ((hdeclared sec).mpr hsaid)
      exact List.not_mem_nil (hnil ▸ Directory.mem_partsOf_all hk)

/-- What becomes of the objects of a document, whenever they are classified. -/
structure DecomposesObjects (doc : Document) : Prop where
  /-- An object that is done is composed of what it declares. -/
  composed : ∀ (steps : List (Step doc)) (f : doc.Node) (id : SchemaId),
    f.value.form = .object → (doc.after steps).progress.memo.get? f.path = some (.done id) →
      ∃ name parents kinds kind,
        (doc.after steps).progress.ComposedOf doc f.toFragment id name parents kinds kind
  /-- An object whose classification comes to an id is done from then on. -/
  succeeds : ∀ (steps : List (Step doc)) (name : String) (f : doc.Node) (id : SchemaId) (p : Progress),
    Classify.classify doc name f.toFragment (doc.after steps).progress = .ok id p →
      p = (doc.after (steps ++ [.classify name f])).progress ∧
        p.memo.get? f.path = some (.done id)
  /-- An object that declares both `oneOf` and `properties` is rejected, and nothing becomes of any
  other node. -/
  ambiguous : ∀ (steps : List (Step doc)) (name : String) (f : doc.Node),
    f.value.form = .object → f.value.Declares .oneOf → f.value.Declares .properties →
      ∃ r p, Classify.classify doc name f.toFragment (doc.after steps).progress = .error r p ∧
        (doc.after steps).progress.GivesUp f.toFragment p ∧
        ((doc.after steps).progress.memo.get? f.path = none → r = .ambiguousOneOf name ∧
          p.diagnostics.toList =
            (doc.after steps).progress.diagnostics.toList ++ f.toFragment.ambiguity name)
  /-- Also below other nodes such an object does not come to the nodes below it. -/
  unvisited : ∀ (visit : Classify.Classifier) (name : String) (f : doc.Node) (p : Progress),
    f.value.form = .object → f.value.Declares .oneOf → f.value.Declares .properties →
      Classify.build doc visit name f.toFragment p =
        .error (.ambiguousOneOf name) ((f.toFragment.ambiguity name).foldl Progress.report p)

/-- Every object is composed of all that it declares and of nothing else, or it is rejected. -/
theorem decomposes_objects (doc : Document) : doc.DecomposesObjects where
  composed steps f id hform hd := doc.composedOf_after steps f.holds hform hd
  succeeds steps name f id p hrun := by
    have hcoherent := (doc.sound_after steps).coherent
    have hvisit := Classify.classifies_classify doc _ name f.toFragment hcoherent f.holds
    unfold Classify.Ensures at hvisit
    rw [hrun] at hvisit
    refine ⟨?_, hvisit.1.coherent.idOf?_eq_some_iff_done.mp hvisit.2⟩
    rw [after_append]
    exact (Classify.after_of_ok hrun).symm
  ambiguous steps name f hform ho hp :=
    Classify.classifyWithin_of_ambiguous (doc.sound_after steps).coherent f.holds hform
      (isAmbiguous_of_declares ho hp) List.not_mem_nil name
  unvisited visit name f p hform ho hp :=
    Classify.build_of_ambiguous hform (isAmbiguous_of_declares ho hp) visit name p

end Document

end ApiModel

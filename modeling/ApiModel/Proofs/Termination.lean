import ApiModel.Proofs.PreservedRuns
import Mathlib.Data.List.Perm.Subperm

/-!
# Classification ends

The recursion of `classifyWithin` refuses the nodes of its stack, so it ends by its form. That it would
end without this is shown of `classifyTo`: it is stopped by the memory alone, and cut off at a depth
below which anything may happen. As every node that is begun is in the memory from then on, each level
has fewer nodes left than the one above; so at a depth of more levels than there are nodes left the
recursion is never cut off (`agree_classifyWithin`). A node that is begun is entered in a log that is
never shortened, and no node is in it twice.
-/

namespace ApiModel

namespace Progress

variable {doc : Document} {p q r : Progress} {path : Path}

/-- How many nodes the memory does not know. -/
def unclassified (doc : Document) (p : Progress) : Nat :=
  (doc.fragments.filter fun f => (p.memo.get? f.path).isNone).length

/-- What the first progress knows of, the second knows of, and nothing is missing from its log. -/
structure RememberedBy (p q : Progress) : Prop where
  known : ∀ path, (p.memo.get? path).isSome → (q.memo.get? path).isSome
  log : p.reserved <:+ q.reserved

namespace RememberedBy

theorem refl (p : Progress) : p.RememberedBy p := ⟨fun _ h => h, List.suffix_rfl⟩

theorem trans (h : p.RememberedBy q) (h' : q.RememberedBy r) : p.RememberedBy r :=
  ⟨fun path hs => h'.known path (h.known path hs), h.log.trans h'.log⟩

theorem of_eq (h : p.RememberedBy q) (hm : r.memo = q.memo) (hr : r.reserved = q.reserved) :
    p.RememberedBy r :=
  ⟨fun path hs => hm ▸ h.known path hs, hr ▸ h.log⟩

theorem begin (p : Progress) (path : Path) : p.RememberedBy (p.begin path) where
  known path' hs := by
    rw [get?_memo_begin]
    split
    · rfl
    · exact hs
  log := List.suffix_cons ..

theorem complete (p : Progress) (path : Path) (id : SchemaId) (s : Schema) :
    p.RememberedBy (p.complete path id s) where
  known path' hs := by
    rw [get?_memo_complete]
    split
    · rfl
    · exact hs
  log := List.suffix_rfl

theorem abandon (p : Progress) (path : Path) (id : SchemaId) :
    p.RememberedBy (p.abandon path id) where
  known path' hs := by
    rw [get?_memo_abandon]
    split
    · rfl
    · rwa [Option.isSome_map]
  log := List.suffix_rfl

theorem knows (h : p.RememberedBy q) {stack : List Path} (hk : p.Knows stack) : q.Knows stack :=
  fun path hm => h.known path (hk path hm)

theorem unclassified_le (h : p.RememberedBy q) (doc : Document) :
    q.unclassified doc ≤ p.unclassified doc := by
  refine (List.monotone_filter_right _ fun f hf => ?_).length_le
  rw [Option.isNone_iff_eq_none] at hf ⊢
  by_contra hp
  have hq := h.known f.path (Option.isSome_iff_ne_none.mpr hp)
  rw [hf] at hq
  cases hq

end RememberedBy

theorem knows_nil : p.Knows [] := fun _ hm => by cases hm

/-- A node that is begun is one that was left. -/
theorem unclassified_begin_lt {f : Fragment} (hf : doc.Holds f) (hn : p.memo.get? f.path = none) :
    (p.begin f.path).unclassified doc < p.unclassified doc := by
  have hm : f ∈ doc.fragments := Json.mem_fragmentsAt hf
  have hleft : (doc.fragments.filter fun g => ((p.begin f.path).memo.get? g.path).isNone) =
      (doc.fragments.filter fun g => (p.memo.get? g.path).isNone).filter fun g => f.path ≠ g.path := by
    rw [List.filter_filter]
    refine List.filter_congr fun g _ => ?_
    rw [get?_memo_begin]
    by_cases hg : f.path = g.path <;> simp [hg]
  unfold unclassified
  rw [hleft, List.length_filter_lt_length_iff_exists]
  exact ⟨f, List.mem_filter.mpr ⟨hm, by rw [hn]; rfl⟩, by simp⟩

end Progress

namespace Classify

open Progress (RememberedBy)

variable {doc : Document} {visit visit' beyond : Classifier} {f : Fragment} {p q : Progress}

/-! ### The recursion without its guard -/

/-- The recursion of `classifyWithin` with the memory alone to stop it, cut off at a depth. -/
def classifyTo (doc : Document) (beyond : Classifier) : Nat → Classifier
  | 0, name, f => beyond name f
  | depth + 1, name, f => do
    match (← get).memo.get? f.path with
    | some (.inProgress id) | some (.done id) => return id
    | some .failed => throw (.rejectedBefore name)
    | none => inSlot f.path (build doc (classifyTo doc beyond depth) name f)

theorem classifyTo_apply (doc : Document) (beyond : Classifier) (depth : Nat) (name : String)
    (f : Fragment) (p : Progress) :
    classifyTo doc beyond (depth + 1) name f p =
      match p.memo.get? f.path with
      | some (.inProgress id) | some (.done id) => .ok id p
      | some .failed => .error (.rejectedBefore name) p
      | none => inSlot f.path (build doc (classifyTo doc beyond depth) name f) p := by
  have hget : (get : Classify Progress) p = .ok p p := rfl
  rw [classifyTo, run_bind_ok hget]
  cases p.memo.get? f.path with
  | some e => cases e <;> rfl
  | none => rfl

theorem ignoresSchemas_rememberedBy : IgnoresSchemas q.RememberedBy :=
  fun _ _ hm hr _ h => h.of_eq hm hr

theorem agreeing_rememberedBy
    (hv : ∀ name f, doc.Holds f → Agree q.RememberedBy (visit name f) (visit' name f)) :
    Agreeing doc q.RememberedBy visit visit' :=
  ⟨fun _ _ _ h => h.of_eq rfl rfl, ignoresSchemas_rememberedBy.admits.anySchema, hv⟩

theorem agree_build_rememberedBy
    (hv : ∀ name f, doc.Holds f → Agree q.RememberedBy (visit name f) (visit' name f))
    (name : String) : Agree q.RememberedBy (build doc visit name f) (build doc visit' name f) :=
  agree_build ignoresSchemas_rememberedBy.admits (fun _ _ _ h => h.of_eq rfl rfl) (agreeing_rememberedBy hv)
    name

theorem agree_inSlot {path : Path} {x y : Classify Schema}
    (h : Agree (p.begin path).RememberedBy x y) :
    inSlot path x p = inSlot path y p ∧ (p.begin path).RememberedBy (after (inSlot path x) p) := by
  obtain ⟨he, hl⟩ := h (p.begin path) (.refl _)
  refine ⟨?_, after_inSlot hl (fun q id s h => h.trans (.complete q path id s))
    fun q id h => h.trans (.abandon q path id)⟩
  unfold inSlot
  dsimp only
  rw [he]

/-- Where the nodes of the stack are in the memory, the guard does nothing, and at a depth of more
levels than there are nodes left the recursion is not cut off. -/
theorem agree_classifyWithin (doc : Document) (beyond : Classifier) (depth : Nat) {stack : List Path}
    (hstack : q.Knows stack) (hdepth : q.unclassified doc < depth) (name : String)
    (hf : doc.Holds f) :
    Agree q.RememberedBy (classifyWithin doc stack name f) (classifyTo doc beyond depth name f) := by
  induction depth generalizing q stack name f with
  | zero => omega
  | succ depth ih =>
    intro p h
    unfold after
    rw [classifyWithin_apply, classifyTo_apply]
    cases hm : p.memo.get? f.path with
    | some e => cases e <;> exact ⟨rfl, h⟩
    | none =>
      have hat : doc.at? f.path = some f.value := hf
      have hfree : f.path ∉ stack := fun hs => by
        have hknown := h.knows hstack _ hs
        rw [hm] at hknown
        cases hknown
      dsimp only
      rw [if_pos ⟨by rw [hat]; rfl, hfree⟩]
      -- below, the memory knows the node as well, and one node less is left
      have hbegun := h.trans (.begin p f.path)
      have hdepth' : (p.begin f.path).unclassified doc < depth := by
        have hle := h.unclassified_le doc
        have hlt := Progress.unclassified_begin_lt hf hm
        omega
      have hbelow := fun name g (hg : doc.Holds g) =>
        ih ((h.knows hstack).begin f.path) hdepth' name hg
      obtain ⟨he, hl⟩ := agree_inSlot (agree_build_rememberedBy hbelow name)
      exact ⟨he, hbegun.trans hl⟩

theorem remembers_classifyWithin {stack : List Path} (hstack : q.Knows stack) (name : String)
    (hf : doc.Holds f) : Preserves q.RememberedBy (classifyWithin doc stack name f) :=
  (agree_classifyWithin doc (classify doc) (q.unclassified doc + 1) hstack (Nat.lt_succ_self _) name
    hf).preserves

theorem remembers_classify (name : String) (hf : doc.Holds f) :
    Preserves q.RememberedBy (classify doc name f) :=
  remembers_classifyWithin Progress.knows_nil name hf

theorem after_classify_of_known (name : String) (h : (p.memo.get? f.path).isSome) :
    after (classify doc name f) p = p := by
  obtain ⟨e, he⟩ := Option.isSome_iff_exists.mp h
  unfold after classify
  rw [classifyWithin_apply, he]
  cases e <;> rfl

/-- A node that is built was entered in memory and log before. -/
theorem rememberedBy_classify_of_new (name : String) (hf : doc.Holds f)
    (h : p.memo.get? f.path = none) :
    (p.begin f.path).RememberedBy (after (classify doc name f) p) := by
  have hat : doc.at? f.path = some f.value := hf
  have hknows : (p.begin f.path).Knows [f.path] := Progress.knows_nil.begin f.path
  have hbelow := fun name g (hg : doc.Holds g) => (remembers_classifyWithin hknows name hg).agree
  unfold after classify
  rw [classifyWithin_apply, h]
  dsimp only
  rw [if_pos ⟨by rw [hat]; rfl, List.not_mem_nil⟩]
  exact (agree_inSlot (agree_build_rememberedBy hbelow name)).2

end Classify

/-! ### Runs -/

namespace Progress

theorem preserving_rememberedBy (doc : Document) (q : Progress) :
    PreservingSteps doc q.RememberedBy where
  toPreservingSlots := Classify.ignoresSchemas_rememberedBy.preservingSlots
    (fun _ _ _ h => h.of_eq rfl rfl) fun slot fallback =>
      (Classify.agree_visitSlot (Classify.agreeing_rememberedBy fun name _ hg =>
        (Classify.remembers_classify name hg).agree) slot fallback).preserves
  say _ _ _ _ h := h.of_eq rfl rfl
  classify name f := Classify.remembers_classify name f.holds

/-- The log names each node at most once, and nodes only. -/
structure BegunOnce (doc : Document) (p : Progress) : Prop where
  once : (p.reserved.map (·.1)).Nodup
  nodes : ∀ path ∈ p.reserved.map (·.1), path ∈ doc.fragments.map (·.path)
  bounded : p.reserved.length ≤ doc.fragments.length

theorem Coherent.begunOnce {doc : Document} {stack : List Path} {p : Progress}
    (h : p.Coherent doc stack) : p.BegunOnce doc := by
  have hnodes : ∀ path ∈ p.reserved.map (·.1), path ∈ doc.fragments.map (·.path) := by
    intro path hm
    obtain ⟨⟨_, id⟩, hr, rfl⟩ := List.mem_map.mp hm
    obtain ⟨v, hv⟩ := Option.isSome_iff_exists.mp (h.nodes _ (h.agrees _ _ hr).isSome)
    exact List.mem_map.mpr ⟨_, Json.mem_fragmentsAt hv, rfl⟩
  refine ⟨h.nodup_paths, hnodes, ?_⟩
  simpa using (List.subperm_of_subset h.nodup_paths hnodes).length_le

end Progress

namespace Document

/-- Classification comes to an end from whatever progress it starts, and builds a node at most once. -/
structure ClassificationEnds (doc : Document) : Prop where
  /-- With nothing but the memory to stop it, the recursion goes no deeper than there are nodes that
  the memory does not know, whatever there would be below. -/
  returns : ∀ (beyond : Classify.Classifier) (extra : Nat) (name : String) (f : doc.Node)
    (p : Progress), Classify.classifyTo doc beyond (p.unclassified doc + 1 + extra) name f.toFragment p =
      Classify.classify doc name f.toFragment p
  /-- A node that the memory knows is not built again. -/
  known : ∀ (name : String) (f : doc.Node) (p : Progress), (p.memo.get? f.path).isSome →
    Classify.after (Classify.classify doc name f.toFragment) p = p
  /-- Any other is built, and is in the log from then on. -/
  logged : ∀ (name : String) (f : doc.Node) (p : Progress), p.memo.get? f.path = none →
    (f.path, p.catalog.nextId) :: p.reserved <:+
      (Classify.after (Classify.classify doc name f.toFragment) p).reserved
  kept : ∀ steps later : List (Step doc),
    (doc.after steps).progress.reserved <:+ (doc.after (steps ++ later)).progress.reserved
  steps : ∀ steps : List (Step doc), (doc.after steps).progress.BegunOnce doc
  run : ∀ options : Options, (doc.fullDraft options).progress.BegunOnce doc

theorem classification_ends (doc : Document) : doc.ClassificationEnds where
  returns beyond extra name f p := by
    have hdepth : p.unclassified doc < p.unclassified doc + 1 + extra := by omega
    have hagree := Classify.agree_classifyWithin doc beyond _ Progress.knows_nil hdepth name f.holds
    exact (hagree p (.refl p)).1.symm
  known name f p h := Classify.after_classify_of_known name h
  logged name f p h := (Classify.rememberedBy_classify_of_new name f.holds h).log
  kept steps later := by
    have hkept := (Progress.preserving_rememberedBy doc (doc.after steps).progress).runAll
      (.refl _) later
    rw [after_append]
    exact hkept.log
  steps steps := (doc.sound_after steps).coherent.begunOnce
  run options := by
    obtain ⟨steps, hsteps⟩ := doc.fullDraft_eq_after options
    rw [hsteps]
    exact (doc.sound_after steps).coherent.begunOnce

end Document

end ApiModel

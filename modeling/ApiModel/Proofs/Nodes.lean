import ApiModel.Document
import ApiModel.Typing

/-!
# Nodes of a document

`Holds doc f`: the fragment `f` is a node of the document. References end at nodes
(`holds_of_resolve`), and a slot at which something is declared stands for something or fails, so the
slots of items and entries never stand for nothing.
-/

namespace ApiModel.Document

variable {doc : Document}

def Holds (doc : Document) (f : Fragment) : Prop := doc.at? f.path = some f.value

/-- A fragment with the proof that it is a node of the document. -/
structure Node (doc : Document) extends Fragment where
  holds : doc.Holds toFragment

theorem Holds.eq {f g : Fragment} (hf : doc.Holds f) (hg : doc.Holds g) (h : f.path = g.path) :
    f = g := by
  obtain ⟨path, v⟩ := f
  obtain ⟨_, w⟩ := g
  cases h
  simpa using Option.some.inj (hf.symm.trans hg)

section

variable {seen : List Path} {reference pointer : String}

theorem follow_of_foreign (hl : Reference.local? reference doc.selfUri = none) :
    doc.follow seen reference = .error (.unresolvedReference reference) := by
  rw [follow, hl]

theorem follow_of_none (hl : Reference.local? reference doc.selfUri = some pointer)
    (hv : doc.at? (Pointer.segments pointer) = none) :
    doc.follow seen reference = .error (.unresolvedReference (Pointer.canonical pointer)) := by
  rw [follow, hl]
  dsimp only
  split
  · rfl
  · rename_i hsome
    rw [hv] at hsome
    cases hsome

theorem follow_of_some (hl : Reference.local? reference doc.selfUri = some pointer) {v : Json}
    (hv : doc.at? (Pointer.segments pointer) = some v) :
    doc.follow seen reference =
      match v.reference? with
      | none => .ok ⟨Pointer.segments pointer, v⟩
      | some next =>
        if Pointer.segments pointer ∈ seen then .error (.unresolvedReference next)
        else doc.follow (Pointer.segments pointer :: seen) next := by
  rw [follow, hl]
  dsimp only
  split
  · rename_i hnone
    rw [hv] at hnone
    cases hnone
  · rename_i w hsome
    cases Option.some.inj (hv.symm.trans hsome)
    cases v.reference? with
    | none => rfl
    | some next => rfl

end

theorem exists_of_map_eq_ok {ε α β : Type} {e : Except ε α} {g : α → β} {b : β}
    (h : e.map g = .ok b) : ∃ a, e = .ok a ∧ g a = b := by
  cases e with
  | error r => cases h
  | ok a => exact ⟨a, rfl, by cases h; rfl⟩

theorem holds_of_follow {seen : List Path} {reference : String} {f : Fragment}
    (h : doc.follow seen reference = .ok f) : doc.Holds f := by
  fun_induction follow doc seen reference with
  | case1 | case2 => cases h
  | case3 _ _ _ _ _ hv => cases h; exact hv
  | case4 => cases h
  | case5 _ _ _ _ _ _ _ _ _ ih => exact ih h

theorem holds_of_target {seen : List Path} {path : Path} {v : Json} {t : Target}
    (hv : doc.at? path = some v) (h : doc.target seen path v = .ok t) : doc.Holds t.toFragment := by
  unfold target at h
  split at h
  · cases h; exact hv
  · obtain ⟨f, hf, rfl⟩ := exists_of_map_eq_ok h
    exact holds_of_follow hf

theorem holds_of_resolve {slot : Path} {t : Target} (h : doc.resolve slot = .ok (some t)) :
    doc.Holds t.toFragment := by
  unfold resolve at h
  split at h
  · cases h
  · rename_i v hv
    obtain ⟨t', ht, he⟩ := exists_of_map_eq_ok h
    cases he
    exact holds_of_target hv ht

theorem resolve_eq_none_iff {slot : Path} : doc.resolve slot = .ok none ↔ doc.at? slot = none := by
  unfold resolve
  split
  · simp [*]
  · rename_i v hv
    cases doc.target [slot] slot v <;> simp [hv, Except.map]

/-- A reference at a pointer is followed; only the written form of a path counts as seen before. -/
theorem exists_resolvePointer_eq {slot reference : String} {v : Json} (hv : doc.get? slot = some v)
    (hr : v.reference? = some reference) :
    ∃ seen : List Path, (∀ path ∈ seen, Pointer.ofPath path = slot) ∧
      doc.resolvePointer slot =
        (doc.follow seen reference).map fun f => some ⟨f, Pointer.nameOfPath f.path⟩ := by
  obtain ⟨path, hpath, hat⟩ := Option.bind_eq_some_iff.mp hv
  have htarget : ∀ seen, (doc.target seen path v).map some =
      (doc.follow seen reference).map fun f => some ⟨f, Pointer.nameOfPath f.path⟩ := by
    intro seen
    simp only [target, hr]
    cases doc.follow seen reference <;> rfl
  unfold resolvePointer resolve
  rw [hpath]
  by_cases hform : Pointer.ofPath path = slot
  · exact ⟨[path], List.forall_mem_singleton.mpr hform, by simp [hform, hat, htarget]⟩
  · exact ⟨[], fun _ hm => absurd hm List.not_mem_nil, by simp [hform, hat, hr, htarget]⟩

theorem code?_of_follow {seen : List Path} {reference : String} {r : Rejection}
    (h : doc.follow seen reference = .error r) : r.code? = some .unresolvedReference := by
  fun_induction follow doc seen reference with
  | case1 | case2 => cases h; rfl
  | case3 => cases h
  | case4 => cases h; rfl
  | case5 _ _ _ _ _ _ _ _ _ ih => exact ih h

/-- The one cause for which a slot is rejected by itself. -/
theorem code?_of_resolve {slot : Path} {r : Rejection} (h : doc.resolve slot = .error r) :
    r.code? = some .unresolvedReference := by
  unfold resolve at h
  split at h
  · cases h
  · rename_i v _
    cases ht : doc.target [slot] slot v with
    | ok t => rw [ht] at h; cases h
    | error r' =>
      rw [ht] at h
      cases h
      unfold target at ht
      split at ht
      · cases ht
      · rename_i reference _
        cases hf : doc.follow [slot] reference with
        | ok f => rw [hf] at ht; cases ht
        | error r => rw [hf] at ht; cases ht; exact code?_of_follow hf

theorem at?_slot_of_get? {f : Fragment} (hf : doc.Holds f) {key : String} {v : Json}
    (h : f.value.get? key = some v) : doc.at? (f.slot key) = some v := by
  have hv : doc.at? f.path = some f.value := hf
  rw [Fragment.slot, at?_append_singleton, hv, Option.bind_some]
  cases hfv : f.value with
  | obj fields => simpa [hfv, Json.get?, Json.obj?, Json.child?, Json.children] using h
  | _ => simp [hfv, Json.get?, Json.obj?] at h

theorem isSome_at?_of_additionalProperties {f : Fragment} (hf : doc.Holds f)
    (h : f.value.additionalProperties = .schema) :
    (doc.at? (f.slot "additionalProperties")).isSome := by
  unfold Json.additionalProperties at h
  split at h
  · cases h
  · cases h
  · cases h
  · cases h
  · cases h
  · rename_i v _ _ _ _ hv
    rw [at?_slot_of_get? hf hv]; rfl

theorem resolve_ne_none {slot : Path} (h : (doc.at? slot).isSome) : doc.resolve slot ≠ .ok none :=
  fun he => by simp [resolve_eq_none_iff.mp he] at h

end ApiModel.Document

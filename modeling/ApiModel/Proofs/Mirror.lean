import ApiModel.Proofs.Nodes
import ApiModel.Proofs.Respelling

/-!
# Documents that differ in one node

`doc.Mirrors doc' x r`: the documents are the same but for the keywords of the respelling `r` in the
node at `x`, and the same becomes of that node in both. From a path that is `Clear` of the difference,
with references that lead to such paths only, nothing else is seen: what a slot stands for in one
document has a `counterpart` in the other (`resolve_eq`), with the same slots below it.
-/

namespace ApiModel.Document

variable {doc doc' : Document} {x path : Path} {keys : List String} {r : Respelling}

/-- The path leads neither to a node above `x` nor into one of the keywords of `x`. -/
structure Clear (x : Path) (keys : List String) (path : Path) : Prop where
  above : path <+: x → path = x
  inside : ∀ key ∈ keys, ¬ x ++ [key] <+: path

instance : Decidable (Clear x keys path) :=
  decidable_of_iff ((path <+: x → path = x) ∧ ∀ key ∈ keys, ¬ x ++ [key] <+: path)
    ⟨fun h => ⟨h.1, h.2⟩, fun h => ⟨h.above, h.inside⟩⟩

/-- Below a node at another keyword the documents are the same. -/
theorem Clear.below (h : Clear x keys path) {key : String} (hk : key ∉ keys) (rest : Path) :
    Clear x keys (path ++ key :: rest) ∧ path ++ key :: rest ≠ x := by
  have hpath : path <+: path ++ key :: rest := List.prefix_append ..
  have hnot : ¬ path ++ key :: rest <+: x := by
    intro hx
    have he := h.above (hpath.trans hx)
    have hlen := hx.length_le
    rw [he, List.length_append, List.length_cons] at hlen
    omega
  refine ⟨⟨fun hx => absurd hx hnot, fun k hkeys hx => ?_⟩, fun he => hnot (he ▸ List.prefix_rfl)⟩
  rcases List.prefix_or_prefix_of_prefix hx hpath with hin | hin
  · exact h.inside k hkeys hin
  · rcases List.prefix_concat_iff.mp hin with he | hin
    · exact h.inside k hkeys (he ▸ List.prefix_rfl)
    · rw [h.above hin, List.prefix_append_right_inj, List.cons_prefix_cons] at hx
      exact hk (hx.1 ▸ hkeys)

/-- A node from which the difference is not seen. -/
structure Visible (doc : Document) (x : Path) (keys : List String) (f : Fragment) : Prop where
  holds : doc.Holds f
  clear : Clear x keys f.path

namespace Visible

variable {f : Fragment} {key : String}

theorem slot (hf : doc.Visible x keys f) (hk : key ∉ keys) :
    Clear x keys (f.slot key) ∧ f.slot key ≠ x :=
  hf.clear.below hk []

theorem item (hf : doc.Visible x keys f) (hk : key ∉ keys) {slot : Path}
    (hm : slot ∈ doc.items (f.slot key)) : Clear x keys slot := by
  obtain ⟨i, -, rfl⟩ := List.mem_map.mp hm
  rw [Fragment.slot, List.append_assoc]
  exact (hf.clear.below hk [Nat.repr i]).1

theorem entry (hf : doc.Visible x keys f) (hk : key ∉ keys) {e : String × Path}
    (hm : e ∈ doc.entries (f.slot key)) : Clear x keys e.2 ∧ e.2 ≠ x := by
  obtain ⟨k, -, rfl⟩ := List.mem_map.mp hm
  rw [Fragment.slot, List.append_assoc]
  exact hf.clear.below hk [k]

end Visible

structure Mirrors (doc doc' : Document) (x : Path) (r : Respelling) : Prop where
  selfUri : doc'.selfUri = doc.selfUri
  at? : ∀ path, Clear x r.keys path → path ≠ x → doc'.at? path = doc.at? path
  node : ∃ v v', doc.at? x = some v ∧ doc'.at? x = some v' ∧ v.reference? = none ∧ v.Alike v' ∧
    v'.correction? = v.correction?.filter fun c => r.excuse? ≠ some c.code
  refs : ∀ f, doc.Holds f → ∀ reference ∈ f.value.reference?,
    ∀ pointer ∈ Reference.local? reference doc.selfUri, Clear x r.keys (Pointer.segments pointer)

/-- The node at the same path. -/
def counterpart (doc : Document) (f : Fragment) : Fragment :=
  { f with value := (doc.at? f.path).getD f.value }

/-- The same for the end of references. -/
def counterpartOf (doc : Document) (t : Target) : Target :=
  { t with toFragment := doc.counterpart t.toFragment }

namespace Mirrors

variable (h : doc.Mirrors doc' x r) {f : Fragment} {t : Target} {seen : List Path}
  {reference pointer : String}

include h

theorem at?_eq_none_iff (hc : Clear x r.keys path) : doc'.at? path = none ↔ doc.at? path = none := by
  by_cases hx : path = x
  · obtain ⟨v, v', hv, hv', -⟩ := h.node
    simp [hx, hv, hv']
  · rw [h.at? path hc hx]

theorem counterpart_eq (hf : doc.Visible x r.keys f) (hx : f.path ≠ x) : doc'.counterpart f = f := by
  have hv : doc.at? f.path = some f.value := hf.holds
  simp [counterpart, h.at? _ hf.clear hx, hv]

theorem alike_counterpart (hf : doc.Visible x r.keys f) : f.value.Alike (doc'.counterpart f).value := by
  by_cases hx : f.path = x
  · obtain ⟨v, v', hv, hv', -, ha, -⟩ := h.node
    have he : f.value = v := Option.some.inj (hf.holds.symm.trans (hx ▸ hv))
    simpa [counterpart, hx, hv', he] using ha
  · rw [h.counterpart_eq hf hx]
    exact .refl _

/-- What is put right in the node is the same, less what is excused. -/
theorem correction?_counterpart (hf : doc.Visible x r.keys f) (name : String) :
    (doc'.counterpart f).value.correction? =
      f.value.correction?.filter fun c => !r.excuses x (c.diagnostic name f.pointer) := by
  by_cases hx : f.path = x
  · obtain ⟨v, v', hv, hv', -, -, hc⟩ := h.node
    have he : f.value = v := Option.some.inj (hf.holds.symm.trans (hx ▸ hv))
    have hv'' : (doc'.counterpart f).value = v' := by simp [counterpart, hx, hv']
    rw [hv'', hc, he]
    congr 1
    funext c
    simp [Respelling.excuses, Correction.diagnostic, Fragment.pointer, hx]
  · have hall : ∀ c : Correction, r.excuses x (c.diagnostic name f.pointer) = false := by
      intro c
      have hne : f.pointer ≠ Pointer.ofPath x := fun he => hx (Pointer.ofPath_injective he)
      simp [Respelling.excuses, Correction.diagnostic, hne]
    rw [h.counterpart_eq hf hx]
    cases f.value.correction? with
    | none => rfl
    | some c => rw [Option.filter_some, if_pos (by rw [hall c]; rfl)]

theorem reference?_counterpart (hf : doc.Visible x r.keys f) :
    (doc'.counterpart f).value.reference? = f.value.reference? :=
  (h.alike_counterpart hf).reference?

theorem at?_counterpart (hf : doc.Visible x r.keys f) :
    doc'.at? f.path = some (doc'.counterpart f).value := by
  have hv : doc.at? f.path = some f.value := hf.holds
  cases hv' : doc'.at? f.path with
  | none =>
    rw [h.at?_eq_none_iff hf.clear, hv] at hv'
    cases hv'
  | some v' => simp [counterpart, hv']

/-! ### References -/

theorem follow_eq (hr : ∀ pointer ∈ Reference.local? reference doc.selfUri,
      Clear x r.keys (Pointer.segments pointer)) :
    doc'.follow seen reference = (doc.follow seen reference).map doc'.counterpart := by
  -- Both documents take the same steps; where the chain ends at `x`, neither value is a reference.
  fun_induction follow doc seen reference with
  | case1 seen reference hl =>
    rw [follow_of_foreign (h.selfUri ▸ hl)]
    rfl
  | case2 seen reference pointer hl hv =>
    rw [follow_of_none (h.selfUri ▸ hl) ((h.at?_eq_none_iff (hr pointer hl)).mpr hv)]
    rfl
  | case3 seen reference pointer hl v hv hn =>
    have hf : doc.Visible x r.keys ⟨Pointer.segments pointer, v⟩ := ⟨hv, hr pointer hl⟩
    rw [follow_of_some (h.selfUri ▸ hl) (h.at?_counterpart hf), h.reference?_counterpart hf, hn]
    rfl
  | case4 seen reference pointer hl v hv next hn hs =>
    have hf : doc.Visible x r.keys ⟨Pointer.segments pointer, v⟩ := ⟨hv, hr pointer hl⟩
    rw [follow_of_some (h.selfUri ▸ hl) (h.at?_counterpart hf), h.reference?_counterpart hf, hn]
    dsimp only
    rw [if_pos hs]
    rfl
  | case5 seen reference pointer hl v hv next hn hs ih =>
    have hf : doc.Visible x r.keys ⟨Pointer.segments pointer, v⟩ := ⟨hv, hr pointer hl⟩
    rw [follow_of_some (h.selfUri ▸ hl) (h.at?_counterpart hf), h.reference?_counterpart hf, hn]
    dsimp only
    rw [if_neg hs]
    exact ih (h.refs _ hf.holds next hn)

theorem visible_of_follow (hr : ∀ pointer ∈ Reference.local? reference doc.selfUri,
      Clear x r.keys (Pointer.segments pointer))
    (hf : doc.follow seen reference = .ok f) : doc.Visible x r.keys f := by
  refine ⟨holds_of_follow hf, ?_⟩
  fun_induction follow doc seen reference with
  | case1 | case2 | case4 => cases hf
  | case3 _ _ pointer hl =>
    cases hf
    exact hr pointer hl
  | case5 _ _ pointer _ v hv next hn _ ih =>
    exact ih (h.refs ⟨Pointer.segments pointer, v⟩ hv next hn) hf

theorem target_eq (hf : doc.Visible x r.keys f) :
    doc'.target seen f.path (doc'.counterpart f).value =
      (doc.target seen f.path f.value).map doc'.counterpartOf := by
  unfold target
  rw [h.reference?_counterpart hf]
  cases hr : f.value.reference? with
  | none => rfl
  | some reference =>
    dsimp only
    rw [h.follow_eq (h.refs f hf.holds reference hr)]
    cases doc.follow seen reference <;> rfl

theorem visible_of_target (hf : doc.Visible x r.keys f)
    (ht : doc.target seen f.path f.value = .ok t) : doc.Visible x r.keys t.toFragment := by
  unfold target at ht
  split at ht
  · cases ht
    exact hf
  · rename_i reference hr
    obtain ⟨g, hg, rfl⟩ := exists_of_map_eq_ok ht
    exact h.visible_of_follow (h.refs f hf.holds reference hr) hg

theorem resolve_eq (hc : Clear x r.keys path) :
    doc'.resolve path = (doc.resolve path).map (Option.map doc'.counterpartOf) := by
  cases hv : doc.at? path with
  | none =>
    rw [resolve_eq_none_iff.mpr hv, resolve_eq_none_iff.mpr ((h.at?_eq_none_iff hc).mpr hv)]
    rfl
  | some v =>
    have hf : doc.Visible x r.keys ⟨path, v⟩ := ⟨hv, hc⟩
    have hv' : doc'.at? path = some (doc'.counterpart ⟨path, v⟩).value := h.at?_counterpart hf
    unfold resolve
    rw [hv, hv']
    dsimp only
    rw [h.target_eq hf]
    cases doc.target [path] path v <;> rfl

theorem visible_of_resolve (hc : Clear x r.keys path) (ht : doc.resolve path = .ok (some t)) :
    doc.Visible x r.keys t.toFragment := by
  unfold resolve at ht
  split at ht
  · cases ht
  · rename_i v hv
    obtain ⟨t', ht', he⟩ := exists_of_map_eq_ok ht
    cases he
    have hf : doc.Visible x r.keys ⟨path, v⟩ := ⟨hv, hc⟩
    exact h.visible_of_target hf ht'

theorem resolvePointer_eq (hc : ∀ path ∈ Pointer.literal? pointer, Clear x r.keys path) :
    doc'.resolvePointer pointer =
      (doc.resolvePointer pointer).map (Option.map doc'.counterpartOf) := by
  unfold resolvePointer
  cases hp : Pointer.literal? pointer with
  | none => rfl
  | some path =>
    have hc := hc path hp
    dsimp only
    split
    · exact h.resolve_eq hc
    · cases hv : doc.at? path with
      | none =>
        rw [(h.at?_eq_none_iff hc).mpr hv]
        rfl
      | some v =>
        have hf : doc.Visible x r.keys ⟨path, v⟩ := ⟨hv, hc⟩
        have hv' : doc'.at? path = some (doc'.counterpart ⟨path, v⟩).value := h.at?_counterpart hf
        rw [hv']
        dsimp only
        rw [h.reference?_counterpart hf, h.target_eq hf]
        split
        · rfl
        · cases doc.target [] path v <;> rfl

theorem visible_of_resolvePointer (hc : ∀ path ∈ Pointer.literal? pointer, Clear x r.keys path)
    (ht : doc.resolvePointer pointer = .ok (some t)) : doc.Visible x r.keys t.toFragment := by
  unfold resolvePointer at ht
  split at ht
  · cases ht
  · rename_i path hp
    split at ht
    · exact h.visible_of_resolve (hc path hp) ht
    · split at ht
      · cases ht
      · rename_i v hv
        split at ht
        · cases ht
        · obtain ⟨t', ht', he⟩ := exists_of_map_eq_ok ht
          cases he
          have hf : doc.Visible x r.keys ⟨path, v⟩ := ⟨hv, hc path hp⟩
          exact h.visible_of_target hf ht'

theorem entries_eq (hc : Clear x r.keys path) (hx : path ≠ x) : doc'.entries path = doc.entries path := by
  unfold entries
  rw [h.at? path hc hx]

theorem items_eq (hc : Clear x r.keys path) (hx : path ≠ x) : doc'.items path = doc.items path := by
  unfold items
  rw [h.at? path hc hx]

end Mirrors

end ApiModel.Document

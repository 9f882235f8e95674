import ApiModel.Classification.Progress
import ApiModel.Proofs.Withdrawal
import Mathlib.Data.List.Nodup

/-!
# Slots and memory agree

`Ledger stack p`: the nodes of the stack are those in progress, every node in the memory took one
slot, no two nodes took the same, and the slot of a node is filled exactly while the memory calls the
node done (`Agrees`). Taking a slot, filling it and giving it up keep this, and so does whatever adds
schemas at the end of the catalog.

`Extends p p'`: what `p` knew, `p'` still knows. A classification may empty slots that it took itself,
but none that was there before.
-/

namespace ApiModel.Progress

variable {p p' : Progress} {stack : List Path} {path path' : Path} {id id' : SchemaId}

/-- The id of a node, also before its classification has ended. -/
def idOf? (p : Progress) (path : Path) : Option SchemaId := (p.memo.get? path).bind (·.value?)

theorem idOf?_of_inProgress (h : p.memo.get? path = some (.inProgress id)) :
    p.idOf? path = some id := by
  simp [idOf?, h, Memo.Entry.value?]

theorem idOf?_of_done (h : p.memo.get? path = some (.done id)) : p.idOf? path = some id := by
  simp [idOf?, h, Memo.Entry.value?]

theorem idOf?_eq_some_iff : p.idOf? path = some id ↔
    p.memo.get? path = some (.inProgress id) ∨ p.memo.get? path = some (.done id) := by
  unfold idOf?
  rcases p.memo.get? path with - | (e | e | -) <;> simp [Memo.Entry.value?]

theorem get?_memo_begin (p : Progress) (path path' : Path) :
    (p.begin path).memo.get? path' =
      if path = path' then some (.inProgress p.catalog.nextId) else p.memo.get? path' :=
  p.memo.get?_begin path path' _

theorem get?_catalog_begin (p : Progress) (path : Path) (id : SchemaId) :
    (p.begin path).catalog.get? id = p.catalog.get? id :=
  p.catalog.get?_reserve id

theorem get?_memo_complete (p : Progress) (path path' : Path) (id : SchemaId) (s : Schema) :
    (p.complete path id s).memo.get? path' =
      if path = path' then some (.done id) else p.memo.get? path' :=
  p.memo.get?_complete path path' id

theorem get?_catalog_complete (p : Progress) (path : Path) (s : Schema)
    (hlt : id.index < p.catalog.slots.size) (id' : SchemaId) :
    (p.complete path id s).catalog.get? id' = if id' = id then some s else p.catalog.get? id' :=
  p.catalog.get?_fill hlt s id'

theorem get?_memo_abandon (p : Progress) (path path' : Path) (id : SchemaId) :
    (p.abandon path id).memo.get? path' =
      if path = path' then some .failed
      else (p.memo.get? path').map (·.failValues (p.catalog.withdraw id).1) := by
  simp only [abandon, Memo.get?_failValues, Memo.get?_fail]
  split <;> rfl

theorem get?_catalog_abandon (p : Progress) (path : Path) (id id' : SchemaId) :
    (p.abandon path id).catalog.get? id' =
      if id' ∈ (p.catalog.withdraw id).1 then none else p.catalog.get? id' :=
  p.catalog.get?_withdraw id id'

@[simp] theorem size_slots_abandon (p : Progress) (path : Path) (id : SchemaId) :
    (p.abandon path id).catalog.slots.size = p.catalog.slots.size :=
  p.catalog.size_slots_withdraw id

theorem get?_catalog_abandon_eq_some_iff {s : Schema} :
    (p.abandon path id).catalog.get? id' = some s ↔
      p.catalog.get? id' = some s ∧ id' ∉ (p.catalog.withdraw id).1 := by
  rw [get?_catalog_abandon]
  split
  · simp [*]
  · simp [*]

/-! ### The ledger -/

/-- What the memory says of a node goes with what is in the slot that it took. -/
inductive Agrees (p : Progress) (path : Path) (id : SchemaId) : Prop
  | inProgress (h : p.memo.get? path = some (.inProgress id)) (hs : p.catalog.get? id = none)
  | done (h : p.memo.get? path = some (.done id)) (hs : (p.catalog.get? id).isSome)
  | failed (h : p.memo.get? path = some .failed) (hs : p.catalog.get? id = none)

theorem Agrees.isSome (h : p.Agrees path id) : (p.memo.get? path).isSome := by
  rcases h with ⟨h, -⟩ | ⟨h, -⟩ | ⟨h, -⟩ <;> simp [h]

theorem Agrees.eq_of_idOf? (h : p.Agrees path id) (hi : p.idOf? path = some id') : id = id' := by
  unfold idOf? at hi
  rcases h with ⟨h, -⟩ | ⟨h, -⟩ | ⟨h, -⟩ <;> rw [h] at hi <;> cases hi <;> rfl

theorem Agrees.of_eq (h : p.Agrees path id) (hm : p'.memo.get? path = p.memo.get? path)
    (hc : p'.catalog.get? id = p.catalog.get? id) : p'.Agrees path id := by
  rcases h with ⟨h, hs⟩ | ⟨h, hs⟩ | ⟨h, hs⟩
  · exact .inProgress (hm.trans h) (hc.trans hs)
  · exact .done (hm.trans h) (hc ▸ hs)
  · exact .failed (hm.trans h) (hc.trans hs)

structure Ledger (stack : List Path) (p : Progress) : Prop where
  mem_stack : ∀ path, path ∈ stack ↔ ∃ id, p.memo.get? path = some (.inProgress id)
  took : ∀ path, (p.memo.get? path).isSome → ∃ id, (path, id) ∈ p.reserved
  agrees : ∀ path id, (path, id) ∈ p.reserved → p.Agrees path id
  lt_size : ∀ id ∈ p.reserved.map (·.2), id.index < p.catalog.slots.size
  nodup_paths : (p.reserved.map (·.1)).Nodup
  nodup_ids : (p.reserved.map (·.2)).Nodup
  filled : ∀ w ∈ p.filled, w.2 = some none

namespace Ledger

theorem initial : ({} : Progress).Ledger [] where
  mem_stack path := by simp [Memo.get?, Assoc.get?]
  took path h := by simp [Memo.get?, Assoc.get?] at h
  agrees path id h := by cases h
  lt_size id h := by cases h
  nodup_paths := List.nodup_nil
  nodup_ids := List.nodup_nil
  filled w h := by cases h

theorem mem_reserved (h : p.Ledger stack) (hi : p.idOf? path = some id) :
    (path, id) ∈ p.reserved := by
  have hs : (p.memo.get? path).isSome := by
    rcases idOf?_eq_some_iff.mp hi with h | h <;> simp [h]
  obtain ⟨id', hr⟩ := h.took path hs
  rwa [(h.agrees _ _ hr).eq_of_idOf? hi] at hr

theorem eq_of_reserved (h : p.Ledger stack) (hr : (path, id) ∈ p.reserved)
    (hr' : (path', id) ∈ p.reserved) : path = path' :=
  congrArg Prod.fst (List.inj_on_of_nodup_map h.nodup_ids hr hr' rfl)

theorem slot_of_reserved (h : p.Ledger stack) (hr : (path, id) ∈ p.reserved)
    (hr' : (path, id') ∈ p.reserved) : id = id' :=
  congrArg Prod.snd (List.inj_on_of_nodup_map h.nodup_paths hr hr' rfl)

/-- No two nodes have the same id. -/
theorem eq_of_idOf? (h : p.Ledger stack) (hi : p.idOf? path = some id)
    (hi' : p.idOf? path' = some id) : path = path' :=
  h.eq_of_reserved (h.mem_reserved hi) (h.mem_reserved hi')

theorem lt_size_of_idOf? (h : p.Ledger stack) (hi : p.idOf? path = some id) :
    id.index < p.catalog.slots.size :=
  h.lt_size _ (List.mem_map.mpr ⟨_, h.mem_reserved hi, rfl⟩)

theorem isSome_of_done (h : p.Ledger stack) (hd : p.memo.get? path = some (.done id)) :
    (p.catalog.get? id).isSome := by
  rcases h.agrees _ _ (h.mem_reserved (idOf?_of_done hd)) with ⟨h, -⟩ | ⟨-, hs⟩ | ⟨h, -⟩
  · rw [hd] at h; cases h
  · exact hs
  · rw [hd] at h; cases h

theorem eq_none_of_inProgress (h : p.Ledger stack) (hi : p.memo.get? path = some (.inProgress id)) :
    p.catalog.get? id = none := by
  rcases h.agrees _ _ (h.mem_reserved (idOf?_of_inProgress hi)) with ⟨-, hs⟩ | ⟨h, -⟩ | ⟨-, hs⟩
  · exact hs
  · rw [hi] at h; cases h
  · exact hs

/-- A node with a filled slot is done. -/
theorem done_of_idOf? (h : p.Ledger stack) (hi : p.idOf? path = some id)
    (hs : (p.catalog.get? id).isSome) : p.memo.get? path = some (.done id) := by
  rcases idOf?_eq_some_iff.mp hi with hi | hd
  · simp [h.eq_none_of_inProgress hi] at hs
  · exact hd

/-- The one slot that a node took before it failed is empty. -/
theorem exists_slot_of_failed (h : p.Ledger stack) (hf : p.memo.get? path = some .failed) :
    ∃ id, (∀ id', (path, id') ∈ p.reserved ↔ id' = id) ∧ p.catalog.get? id = none := by
  obtain ⟨id, hr⟩ := h.took path (by simp [hf])
  refine ⟨id, fun id' => ⟨fun hr' => h.slot_of_reserved hr' hr, ?_⟩, ?_⟩
  · rintro rfl; exact hr
  · rcases h.agrees path id hr with ⟨hm, -⟩ | ⟨hm, -⟩ | ⟨-, hs⟩
    · rw [hf] at hm; cases hm
    · rw [hf] at hm; cases hm
    · exact hs

theorem not_reserved (h : p.Ledger stack) (hn : p.memo.get? path = none) :
    path ∉ p.reserved.map (·.1) := by
  intro hm
  obtain ⟨⟨_, id⟩, hr, rfl⟩ := List.mem_map.mp hm
  have := (h.agrees _ _ hr).isSome
  simp [hn] at this

theorem not_mem_stack (h : p.Ledger stack) (hn : p.memo.get? path = none) : path ∉ stack := by
  intro hm
  obtain ⟨id, hi⟩ := (h.mem_stack path).mp hm
  rw [hn] at hi; cases hi

theorem nextId_not_reserved (h : p.Ledger stack) : p.catalog.nextId ∉ p.reserved.map (·.2) :=
  fun hm => Nat.lt_irrefl _ (h.lt_size _ hm)

/-- Schemas may be added, and slots that no node took may change. -/
theorem of_slots (h : p.Ledger stack) (hm : p'.memo = p.memo) (hr : p'.reserved = p.reserved)
    (hf : p'.filled = p.filled) (hle : p.catalog.slots.size ≤ p'.catalog.slots.size)
    (hs : ∀ id ∈ p.reserved.map (·.2), p'.catalog.get? id = p.catalog.get? id) :
    p'.Ledger stack where
  mem_stack path := by rw [hm]; exact h.mem_stack path
  took path := by rw [hm, hr]; exact h.took path
  agrees path id hmem := by
    rw [hr] at hmem
    exact (h.agrees path id hmem).of_eq (by rw [hm]) (hs id (List.mem_map.mpr ⟨_, hmem, rfl⟩))
  lt_size id hmem := by
    rw [hr] at hmem
    exact Nat.lt_of_lt_of_le (h.lt_size id hmem) hle
  nodup_paths := hr ▸ h.nodup_paths
  nodup_ids := hr ▸ h.nodup_ids
  filled := hf ▸ h.filled

theorem begin (h : p.Ledger stack) (hn : p.memo.get? path = none) :
    (p.begin path).Ledger (path :: stack) where
  mem_stack path' := by
    rw [get?_memo_begin, List.mem_cons]
    split
    · rename_i he; simp [he]
    · rename_i he; simp [Ne.symm he, h.mem_stack path']
  took path' hs := by
    rw [get?_memo_begin] at hs
    split at hs
    · rename_i he; subst he; exact ⟨_, List.mem_cons_self ..⟩
    · obtain ⟨id, hr⟩ := h.took path' hs
      exact ⟨id, List.mem_cons_of_mem _ hr⟩
  agrees path' id hr := by
    rcases List.mem_cons.mp hr with he | hr
    · cases he
      refine .inProgress (by rw [get?_memo_begin, if_pos rfl]) ?_
      rw [get?_catalog_begin]
      simp [Catalog.get?, Catalog.nextId]
    · have hne : path ≠ path' := fun he =>
        h.not_reserved hn (he ▸ List.mem_map.mpr ⟨_, hr, rfl⟩)
      refine (h.agrees path' id hr).of_eq ?_ (p.get?_catalog_begin path id)
      rw [get?_memo_begin, if_neg hne]
  lt_size id hm := by
    have hsize : (p.begin path).catalog.slots.size = p.catalog.slots.size + 1 := Array.size_push ..
    rcases List.mem_cons.mp hm with rfl | hm
    · rw [hsize]; exact Nat.lt_succ_self _
    · rw [hsize]; exact Nat.lt_succ_of_lt (h.lt_size id hm)
  nodup_paths := List.nodup_cons.mpr ⟨h.not_reserved hn, h.nodup_paths⟩
  nodup_ids := List.nodup_cons.mpr ⟨h.nextId_not_reserved, h.nodup_ids⟩
  filled := h.filled

theorem complete (h : p.Ledger (path :: stack)) (hp : path ∉ stack)
    (hi : p.memo.get? path = some (.inProgress id)) (s : Schema) :
    (p.complete path id s).Ledger stack where
  mem_stack path' := by
    rw [get?_memo_complete]
    split
    · rename_i he; subst he; simpa using hp
    · rename_i he
      rw [← h.mem_stack path', List.mem_cons]
      simp [Ne.symm he]
  took path' hs := by
    rw [get?_memo_complete] at hs
    split at hs
    · rename_i he; subst he; exact ⟨_, h.mem_reserved (idOf?_of_inProgress hi)⟩
    · exact h.took path' hs
  agrees path' id' hr := by
    have hmem := h.mem_reserved (idOf?_of_inProgress hi)
    have hlt := h.lt_size_of_idOf? (idOf?_of_inProgress hi)
    by_cases he : path = path'
    · subst he
      rw [h.slot_of_reserved hr hmem]
      refine .done (by rw [get?_memo_complete, if_pos rfl]) ?_
      rw [get?_catalog_complete _ _ _ hlt, if_pos rfl]; rfl
    · have hne : id' ≠ id := fun heq => he (h.eq_of_reserved hmem (heq ▸ hr))
      refine (h.agrees path' id' hr).of_eq ?_ ?_
      · rw [get?_memo_complete, if_neg he]
      · rw [get?_catalog_complete _ _ _ hlt, if_neg hne]
  lt_size id' hm := by
    simpa [Progress.complete, Catalog.fill] using h.lt_size id' hm
  nodup_paths := h.nodup_paths
  nodup_ids := h.nodup_ids
  filled w hw := by
    rcases List.mem_cons.mp hw with rfl | hw
    · have hlt := h.lt_size_of_idOf? (idOf?_of_inProgress hi)
      have hnone := h.eq_none_of_inProgress hi
      simpa [Catalog.get?, hlt] using hnone
    · exact h.filled w hw

end Ledger

/-- A node with another id that was not withdrawn keeps its id. -/
theorem idOf?_abandon {path₀ : Path} {failed : SchemaId} (h₀ : p.idOf? path₀ = some failed)
    (hi : p.idOf? path = some id) (hne : id ≠ failed) (hw : id ∉ (p.catalog.withdraw failed).1) :
    (p.abandon path₀ failed).idOf? path = some id := by
  have hpath : path₀ ≠ path := by
    rintro rfl
    exact hne (Option.some.inj (hi.symm.trans h₀))
  rcases idOf?_eq_some_iff.mp hi with hi | hi
  · exact idOf?_of_inProgress (by rw [get?_memo_abandon, if_neg hpath, hi]; rfl)
  · refine idOf?_of_done ?_
    rw [get?_memo_abandon, if_neg hpath, Memo.map_failValues_eq_done_iff]
    exact ⟨hi, hw⟩

theorem Ledger.abandon (h : p.Ledger (path :: stack)) (hp : path ∉ stack)
    (hi : p.memo.get? path = some (.inProgress id)) : (p.abandon path id).Ledger stack where
  mem_stack path' := by
    rw [get?_memo_abandon]
    split
    · rename_i he; subst he; simpa using hp
    · rename_i he
      have hm := h.mem_stack path'
      rw [List.mem_cons, or_iff_right (Ne.symm he)] at hm
      rw [hm]
      rcases p.memo.get? path' with - | (e | e | -) <;> simp [Memo.Entry.failValues]
      split <;> simp
  took path' hs := by
    rw [get?_memo_abandon] at hs
    split at hs
    · rename_i he; subst he; exact ⟨_, h.mem_reserved (idOf?_of_inProgress hi)⟩
    · exact h.took path' (by simpa using hs)
  agrees path' id' hr := by
    have hmemo := p.get?_memo_abandon path path' id
    have hget := p.get?_catalog_abandon path id id'
    by_cases he : path = path'
    · subst he
      rw [if_pos rfl] at hmemo
      have heq := h.slot_of_reserved hr (h.mem_reserved (idOf?_of_inProgress hi))
      refine .failed hmemo ?_
      rw [hget, heq, h.eq_none_of_inProgress hi, ite_self]
    · rw [if_neg he] at hmemo
      rcases h.agrees path' id' hr with ⟨hm, hs⟩ | ⟨hm, hs⟩ | ⟨hm, hs⟩
      · rw [hm] at hmemo
        exact .inProgress hmemo (by rw [hget, hs, ite_self])
      · rw [hm] at hmemo
        by_cases hw : id' ∈ (p.catalog.withdraw id).1
        · exact .failed (by simpa [Memo.Entry.failValues, hw] using hmemo) (by rw [hget, if_pos hw])
        · refine .done (by simpa [Memo.Entry.failValues, hw] using hmemo) ?_
          rwa [hget, if_neg hw]
      · rw [hm] at hmemo
        exact .failed hmemo (by rw [hget, hs, ite_self])
  lt_size id' hm := by
    rw [size_slots_abandon]; exact h.lt_size id' hm
  nodup_paths := h.nodup_paths
  nodup_ids := h.nodup_ids
  filled := h.filled

/-! ### Later states -/

structure Extends (p p' : Progress) : Prop where
  size_le : p.catalog.slots.size ≤ p'.catalog.slots.size
  slot : ∀ id, id.index < p.catalog.slots.size → p'.catalog.get? id = p.catalog.get? id
  entry : ∀ path e, p.memo.get? path = some e → p'.memo.get? path = some e
  anyId : ∀ id, p.anyId = some id → p'.anyId = some id

namespace Extends

variable {q : Progress}

theorem refl (p : Progress) : p.Extends p :=
  ⟨Nat.le_refl _, fun _ _ => rfl, fun _ _ h => h, fun _ h => h⟩

theorem trans (h : p.Extends p') (h' : p'.Extends q) : p.Extends q where
  size_le := Nat.le_trans h.size_le h'.size_le
  slot id hid := (h'.slot id (Nat.lt_of_lt_of_le hid h.size_le)).trans (h.slot id hid)
  entry path e he := h'.entry path e (h.entry path e he)
  anyId id hid := h'.anyId id (h.anyId id hid)

theorem get? (h : p.Extends p') {s : Schema} (hs : p.catalog.get? id = some s) :
    p'.catalog.get? id = some s := by
  rw [h.slot id (Catalog.lt_size_of_get? hs), hs]

theorem isSome_get? (h : p.Extends p') (hs : (p.catalog.get? id).isSome) :
    (p'.catalog.get? id).isSome := by
  obtain ⟨s, hs⟩ := Option.isSome_iff_exists.mp hs
  simp [h.get? hs]

theorem idOf? (h : p.Extends p') (hi : p.idOf? path = some id) : p'.idOf? path = some id := by
  rcases idOf?_eq_some_iff.mp hi with hi | hi
  · exact idOf?_of_inProgress (h.entry _ _ hi)
  · exact idOf?_of_done (h.entry _ _ hi)

/-- Catalogs that grow at their end only. -/
theorem of_catalog (hm : p'.memo = p.memo) (ha : ∀ id, p.anyId = some id → p'.anyId = some id)
    (hle : p.catalog.slots.size ≤ p'.catalog.slots.size)
    (hs : ∀ id, id.index < p.catalog.slots.size → p'.catalog.get? id = p.catalog.get? id) :
    p.Extends p' :=
  ⟨hle, hs, fun _ _ he => hm ▸ he, ha⟩

end Extends

end ApiModel.Progress

import ApiModel.Catalog
import Mathlib.Order.Bounds.Basic

/-!
# What a withdrawal empties

`Dependent c failed id`: the slot `id` lies after `failed`, is filled, and leads to an empty slot at or
after `failed`, by its own references or through other such slots. `Catalog.withdraw` empties dependent
slots only and stops when no slot after `failed` refers to an empty one at or after it. So it empties
the least set that takes in every later slot which refers to an empty one or into the set
(`withdraw_empties_dependents`), whatever the order in which it comes to them.
-/

namespace ApiModel.Catalog

variable {c : Catalog} {failed id : SchemaId}

/-- The filled slots after `failed` that lead to an empty slot at or after it. -/
inductive Dependent (c : Catalog) (failed : SchemaId) : SchemaId → Prop
  | empty {id r : SchemaId} {s : Schema} (hid : failed.index < id.index) (hs : c.get? id = some s)
      (hr : r ∈ s.references) (hle : failed.index ≤ r.index) (he : c.get? r = none) :
      Dependent c failed id
  | through {id r : SchemaId} {s : Schema} (hid : failed.index < id.index) (hs : c.get? id = some s)
      (hr : r ∈ s.references) (h : Dependent c failed r) : Dependent c failed id

theorem exists_of_dangling? (h : c.dangling? failed = some id) :
    failed.index < id.index ∧ ∃ s, c.get? id = some s ∧
      ∃ r ∈ s.references, failed.index ≤ r.index ∧ c.get? r = none := by
  have := List.find?_some h
  simp only [Bool.and_eq_true, decide_eq_true_eq, Option.any_eq_true, List.any_eq_true,
    Option.isNone_iff_eq_none] at this
  exact this

theorem dangling?_of_last (h : ∀ id, failed.index < id.index → c.get? id = none) :
    c.dangling? failed = none := by
  refine Option.eq_none_iff_forall_ne_some.mpr fun id hd => ?_
  obtain ⟨hlt, s, hs, -⟩ := exists_of_dangling? hd
  rw [h id hlt] at hs
  cases hs

theorem isSome_get?_of_dangling?_eq_none (h : c.dangling? failed = none) {s : Schema}
    (hid : failed.index < id.index) (hs : c.get? id = some s) {r : SchemaId} (hr : r ∈ s.references)
    (hle : failed.index ≤ r.index) : (c.get? r).isSome := by
  have hm : id ∈ (List.range c.slots.size).map SchemaId.mk :=
    List.mem_map.mpr ⟨id.index, List.mem_range.mpr (lt_size_of_get? hs), rfl⟩
  have := List.find?_eq_none.mp h id hm
  simp only [Bool.and_eq_true, decide_eq_true_eq, Option.any_eq_true, List.any_eq_true,
    Option.isNone_iff_eq_none, not_and, not_exists] at this
  exact Option.isSome_iff_ne_none.mpr (this hid s hs r hr hle)

theorem withdraw_of_none (h : c.dangling? failed = none) : c.withdraw failed = ([], c) := by
  rw [withdraw]; split
  · rfl
  · rename_i h'; rw [h] at h'; cases h'

theorem withdraw_of_some (h : c.dangling? failed = some id) :
    c.withdraw failed =
      (id :: ((c.clear id).withdraw failed).1, ((c.clear id).withdraw failed).2) := by
  rw [withdraw]; split
  · rename_i h'; rw [h] at h'; cases h'
  · rename_i h'; rw [h] at h'; cases h'; rfl

/-- Induction along a withdrawal: nothing dangles, or the first dangling slot is cleared. -/
theorem withdraw_induction (failed : SchemaId) {P : Catalog → Prop}
    (stop : ∀ c, c.dangling? failed = none → P c)
    (step : ∀ c id, c.dangling? failed = some id → P (c.clear id) → P c) (c : Catalog) : P c := by
  induction hn : c.size using Nat.strongRecOn generalizing c with
  | ind n ih =>
    cases h : c.dangling? failed with
    | none => exact stop c h
    | some id =>
      exact step c id h (ih _ (hn ▸ size_clear_lt (isSome_get?_of_dangling? h)) _ rfl)

@[simp] theorem size_slots_withdraw (c : Catalog) (failed : SchemaId) :
    (c.withdraw failed).2.slots.size = c.slots.size := by
  induction c using withdraw_induction failed with
  | stop c h => rw [withdraw_of_none h]
  | step c id h ih => rw [withdraw_of_some h]; exact ih.trans (size_slots_clear c id)

theorem get?_withdraw (c : Catalog) (failed id : SchemaId) :
    (c.withdraw failed).2.get? id = if id ∈ (c.withdraw failed).1 then none else c.get? id := by
  induction c using withdraw_induction failed with
  | stop c h => simp [withdraw_of_none h]
  | step c first h ih =>
    rw [withdraw_of_some h]
    simp only [ih, get?_clear, List.mem_cons]
    split
    · simp [*]
    · split <;> simp [*]

theorem dangling?_withdraw (c : Catalog) (failed : SchemaId) :
    (c.withdraw failed).2.dangling? failed = none := by
  induction c using withdraw_induction failed with
  | stop c h => rwa [withdraw_of_none h]
  | step c id h ih => rwa [withdraw_of_some h]

/-- A slot that depends on what is empty after one dependent slot is cleared did so before. -/
theorem Dependent.of_clear {first : SchemaId} (hf : Dependent c failed first)
    (h : Dependent (c.clear first) failed id) : Dependent c failed id := by
  have filled : ∀ {id s}, (c.clear first).get? id = some s → c.get? id = some s := by
    intro id s hs
    rw [get?_clear] at hs
    split at hs
    · cases hs
    · exact hs
  induction h with
  | @empty id r s hid hs hr hle he =>
    rw [get?_clear] at he
    split at he
    · rename_i h; subst h; exact .through hid (filled hs) hr hf
    · exact .empty hid (filled hs) hr hle he
  | through hid hs hr _ ih => exact .through hid (filled hs) hr ih

theorem dependent_of_mem_withdraw (h : id ∈ (c.withdraw failed).1) : Dependent c failed id := by
  induction c using withdraw_induction failed with
  | stop c hn => simp [withdraw_of_none hn] at h
  | step c first hd ih =>
    obtain ⟨hlt, s, hs, r, hr, hle, he⟩ := exists_of_dangling? hd
    have hf : Dependent c failed first := .empty hlt hs hr hle he
    rw [withdraw_of_some hd] at h
    rcases List.mem_cons.mp h with rfl | h
    · exact hf
    · exact hf.of_clear (ih h)

theorem Dependent.lt (h : Dependent c failed id) : failed.index < id.index := by
  cases h <;> assumption

theorem not_mem_withdraw_of_lt (h : id.index < failed.index) : id ∉ (c.withdraw failed).1 :=
  fun hm => Nat.lt_asymm h (dependent_of_mem_withdraw hm).lt

/-- What is left after a withdrawal refers neither to the empty slot nor to one that was emptied, if
what lies before the slot never did. -/
theorem kept_of_withdraw (hnone : c.get? failed = none)
    (hold : ∀ id s, id.index < failed.index → c.get? id = some s →
      ∀ r ∈ s.references, r.index < failed.index)
    {s : Schema} (hs : (c.withdraw failed).2.get? id = some s) {r : SchemaId}
    (hr : r ∈ s.references) : r ≠ failed ∧ r ∉ (c.withdraw failed).1 := by
  have before : r.index < failed.index → r ≠ failed ∧ r ∉ (c.withdraw failed).1 := fun h =>
    ⟨by rintro rfl; exact Nat.lt_irrefl _ h, not_mem_withdraw_of_lt h⟩
  have hs' := hs
  rw [get?_withdraw] at hs'
  split at hs'
  · cases hs'
  -- What lies before `failed` never referred beyond it; what lies after it refers to filled slots.
  rcases Nat.lt_trichotomy id.index failed.index with hlt | heq | hgt
  · exact before (hold id s hlt hs' r hr)
  · obtain ⟨i⟩ := id
    obtain ⟨j⟩ := failed
    cases heq
    rw [hnone] at hs'; cases hs'
  · rcases Nat.lt_or_ge r.index failed.index with hlt | hge
    · exact before hlt
    · have hfilled := isSome_get?_of_dangling?_eq_none (dangling?_withdraw c failed) hgt hs hr hge
      rw [get?_withdraw] at hfilled
      split at hfilled
      · cases hfilled
      · refine ⟨?_, by assumption⟩
        rintro rfl
        rw [hnone] at hfilled; cases hfilled

theorem Dependent.filled (h : Dependent c failed id) : ∃ s, c.get? id = some s ∧ s.references ≠ [] := by
  cases h with
  | empty _ hs hr | through _ hs hr => exact ⟨_, hs, List.ne_nil_of_mem hr⟩

/-! ### The least set of dependents -/

/-- The filled slots after `failed` that refer to an empty slot at or after it or into `S`. -/
def dependingOn (c : Catalog) (failed : SchemaId) (S : Set SchemaId) : Set SchemaId :=
  {id | failed.index < id.index ∧ ∃ s, c.get? id = some s ∧
    ∃ r ∈ s.references, (failed.index ≤ r.index ∧ c.get? r = none) ∨ r ∈ S}

theorem isLeast_dependent (c : Catalog) (failed : SchemaId) :
    IsLeast {S | c.dependingOn failed S ⊆ S} {id | Dependent c failed id} := by
  constructor
  · rintro id ⟨hid, s, hs, r, hr, ⟨hle, he⟩ | hdep⟩
    · exact .empty hid hs hr hle he
    · exact .through hid hs hr hdep
  · intro S hS id hdep
    induction hdep with
    | empty hid hs hr hle he => exact hS ⟨hid, _, hs, _, hr, .inl ⟨hle, he⟩⟩
    | through hid hs hr _ ih => exact hS ⟨hid, _, hs, _, hr, .inr ih⟩

/-- Whatever depends on an empty slot is emptied: if it were left, its reference would dangle. -/
theorem Dependent.mem_withdraw (h : Dependent c failed id) : id ∈ (c.withdraw failed).1 := by
  induction h with
  | @empty id r s hid hs hr hle he =>
    by_contra hleft
    have hkept : (c.withdraw failed).2.get? id = some s := by rw [get?_withdraw, if_neg hleft, hs]
    have := isSome_get?_of_dangling?_eq_none (dangling?_withdraw c failed) hid hkept hr hle
    rw [get?_withdraw, he, ite_self] at this
    cases this
  | @through id r s hid hs hr hdep ih =>
    by_contra hleft
    have hkept : (c.withdraw failed).2.get? id = some s := by rw [get?_withdraw, if_neg hleft, hs]
    have := isSome_get?_of_dangling?_eq_none (dangling?_withdraw c failed) hid hkept hr hdep.lt.le
    rw [get?_withdraw, if_pos ih] at this
    cases this

theorem mem_withdraw_iff : id ∈ (c.withdraw failed).1 ↔ Dependent c failed id :=
  ⟨dependent_of_mem_withdraw, Dependent.mem_withdraw⟩

theorem nodup_withdraw (c : Catalog) (failed : SchemaId) : (c.withdraw failed).1.Nodup := by
  induction c using withdraw_induction failed with
  | stop c h => rw [withdraw_of_none h]; exact List.nodup_nil
  | step c first h ih =>
    rw [withdraw_of_some h]
    refine List.nodup_cons.mpr ⟨fun hm => ?_, ih⟩
    obtain ⟨s, hs, -⟩ := (dependent_of_mem_withdraw hm).filled
    rw [get?_clear, if_pos rfl] at hs
    cases hs

theorem getElem?_slots (c : Catalog) (i : Nat) :
    c.slots[i]? = if i < c.slots.size then some (c.get? ⟨i⟩) else none := by
  split
  · rename_i hi; simp [get?, hi]
  · rename_i hi; exact Array.getElem?_eq_none (Nat.le_of_not_lt hi)

theorem getElem?_slots_withdraw (c : Catalog) (failed : SchemaId) (i : Nat) :
    (c.withdraw failed).2.slots[i]? =
      if ⟨i⟩ ∈ (c.withdraw failed).1 then some none else c.slots[i]? := by
  rw [getElem?_slots, size_slots_withdraw, get?_withdraw, getElem?_slots c i]
  split
  · exact apply_ite some ..
  · rename_i hi
    refine (if_neg fun hm => hi ?_).symm
    obtain ⟨s, hs, -⟩ := (dependent_of_mem_withdraw hm).filled
    exact lt_size_of_get? hs

/-- A withdrawal empties the least set of later slots that refer to an empty slot or into the set, each
once, and leaves all others; then no later slot refers to an empty one, and there is no more to do. -/
theorem withdraw_empties_dependents (c : Catalog) (failed : SchemaId) :
    IsLeast {S | c.dependingOn failed S ⊆ S} {id | id ∈ (c.withdraw failed).1} ∧
      (c.withdraw failed).1.Nodup ∧
      (∀ i : Nat, (c.withdraw failed).2.slots[i]? =
        if ⟨i⟩ ∈ (c.withdraw failed).1 then some none else c.slots[i]?) ∧
      (∀ id s r, failed.index < id.index → (c.withdraw failed).2.get? id = some s →
        r ∈ s.references → failed.index ≤ r.index → ((c.withdraw failed).2.get? r).isSome) ∧
      (c.withdraw failed).2.withdraw failed = ([], (c.withdraw failed).2) := by
  have hset : {id | id ∈ (c.withdraw failed).1} = {id | Dependent c failed id} :=
    Set.ext fun _ => mem_withdraw_iff
  refine ⟨hset ▸ isLeast_dependent c failed, nodup_withdraw c failed,
    getElem?_slots_withdraw c failed, ?_, withdraw_of_none (dangling?_withdraw c failed)⟩
  intro id s r hid hs hr hle
  exact isSome_get?_of_dangling?_eq_none (dangling?_withdraw c failed) hid hs hr hle

/-- Slots 2 and 3 depend on the empty slot 1; slot 4 refers to a slot before it. -/
example :
    (withdraw ⟨#[none, none, some (.undescribed "" (.dictionary ⟨1⟩)),
      some (.undescribed "" (.dictionary ⟨2⟩)), some (.undescribed "" (.dictionary ⟨0⟩))]⟩ ⟨1⟩).1 =
      [⟨2⟩, ⟨3⟩] := by
  decide +kernel

end ApiModel.Catalog

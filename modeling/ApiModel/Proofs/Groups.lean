import ApiModel.Proofs.Walk
import Mathlib.Data.List.Perm.Basic

/-!
# Groups and what was added to them

`Groups.gather added`: the groups that list these operations, each under its group, groups and
operations in the order in which they were added. Adding an operation whose name is free in its group
is adding it to the list (`add?_gather`), so groups that operations were added to are those of a list.
-/

namespace ApiModel.Groups

variable {added : List (String × Operation)} {name group : String} {op : Operation}

def namesOf (added : List (String × Operation)) : List String := firsts id (added.map (·.1))

/-- The operations that were added to the group of a name. -/
def operationsOf (added : List (String × Operation)) (name : String) : List Operation :=
  (added.filter fun o => o.1 = name).map (·.2)

def gather (added : List (String × Operation)) : Groups :=
  (namesOf added).map fun name => ⟨name, operationsOf added name⟩

theorem mem_namesOf : name ∈ namesOf added ↔ ∃ op, (name, op) ∈ added := by
  rw [namesOf, mem_firsts_id, List.mem_map]
  constructor
  · rintro ⟨⟨_, op⟩, h, rfl⟩
    exact ⟨op, h⟩
  · rintro ⟨op, h⟩
    exact ⟨_, h, rfl⟩

theorem nodup_namesOf (added : List (String × Operation)) : (namesOf added).Nodup := by
  have h := nodup_map_firsts id (added.map (·.1))
  rwa [List.map_id] at h

theorem mem_operationsOf : op ∈ operationsOf added name ↔ (name, op) ∈ added := by
  simp only [operationsOf, List.mem_map, List.mem_filter, decide_eq_true_eq]
  constructor
  · rintro ⟨⟨_, _⟩, ⟨h, rfl⟩, rfl⟩
    exact h
  · intro h
    exact ⟨_, ⟨h, rfl⟩, rfl⟩

theorem map_name_gather (added : List (String × Operation)) :
    (gather added).map (·.name) = namesOf added := by
  rw [gather, List.map_map]
  exact List.map_id _

/-- A group is empty exactly if nothing was added to it. -/
theorem operationsOf_eq_nil (h : name ∉ namesOf added) : operationsOf added name = [] := by
  rw [List.eq_nil_iff_forall_not_mem]
  intro op hop
  exact h (mem_namesOf.mpr ⟨op, mem_operationsOf.mp hop⟩)

theorem operationsOf_ne_nil (h : name ∈ namesOf added) : operationsOf added name ≠ [] := by
  obtain ⟨op, hop⟩ := mem_namesOf.mp h
  exact List.ne_nil_of_mem (mem_operationsOf.mpr hop)

theorem group_gather (added : List (String × Operation)) (name : String) :
    (gather added).group name = ⟨name, operationsOf added name⟩ := by
  have find : ∀ names : List String,
      (names.map fun n => (⟨n, operationsOf added n⟩ : Group)).find? (fun g => g.name = name) =
        if name ∈ names then some ⟨name, operationsOf added name⟩ else none := by
    intro names
    induction names with
    | nil => rfl
    | cons n names ih =>
      by_cases hn : n = name
      · simp [hn]
      · simp only [List.map_cons, List.find?_cons, hn, decide_false, ih, List.mem_cons, Ne.symm hn,
          false_or]
  unfold group gather
  rw [find]
  split
  · rfl
  · rename_i h
    rw [Option.getD_none, operationsOf_eq_nil h]

theorem put_map {names : List String} (hn : names.Nodup) (operations : String → List Operation)
    (g : Group) :
    put g (names.map fun n => ⟨n, operations n⟩) =
      if g.name ∈ names then names.map fun n => if n = g.name then g else ⟨n, operations n⟩
      else (names.map fun n => ⟨n, operations n⟩) ++ [g] := by
  induction names with
  | nil => rfl
  | cons n names ih =>
    rw [List.nodup_cons] at hn
    rw [List.map_cons, put]
    by_cases he : n = g.name
    · have hrest : (names.map fun n => if n = g.name then g else ⟨n, operations n⟩) =
          names.map fun n => (⟨n, operations n⟩ : Group) :=
        List.map_congr_left fun m hm => if_neg fun hmg : m = g.name => hn.1 (he.trans hmg.symm ▸ hm)
      simp only [he, if_true, List.mem_cons, true_or, List.map_cons]
      rw [hrest]
    · simp only [he, if_false, List.mem_cons, Ne.symm he, false_or, ih hn.2, List.map_cons]
      split <;> rfl

theorem operationsOf_append_singleton (added : List (String × Operation)) (name group : String)
    (op : Operation) :
    operationsOf (added ++ [(group, op)]) name =
      if name = group then operationsOf added group ++ [op] else operationsOf added name := by
  by_cases h : name = group
  · simp [operationsOf, h]
  · simp [operationsOf, h, Ne.symm h]

theorem namesOf_append_singleton (added : List (String × Operation)) (group : String)
    (op : Operation) :
    namesOf (added ++ [(group, op)]) =
      if group ∈ namesOf added then namesOf added else namesOf added ++ [group] := by
  rw [namesOf, List.map_append, List.map_singleton, firsts_append_singleton]
  simp only [namesOf, List.map_id, id_eq, mem_firsts_id]

theorem find?_gather (added : List (String × Operation)) (group member : String) :
    ((gather added).find? group member).isSome ↔ ∃ o ∈ added, o.1 = group ∧ o.2.name = member := by
  rw [find?, group_gather, Group.find?, List.find?_isSome]
  simp only [decide_eq_true_eq]
  constructor
  · rintro ⟨op, hop, hm⟩
    exact ⟨_, mem_operationsOf.mp hop, rfl, hm⟩
  · rintro ⟨⟨_, op⟩, ho, rfl, hm⟩
    exact ⟨op, mem_operationsOf.mpr ho, hm⟩

/-- An operation whose name is free in its group is added after all others. -/
theorem add?_gather (hfree : ¬ ((gather added).find? group op.name).isSome) :
    (gather added).add? group op = some (gather (added ++ [(group, op)])) := by
  have hnone : ¬ (((gather added).group group).find? op.name).isSome := hfree
  rw [add?, if_neg hnone, group_gather, gather,
    put_map (nodup_namesOf added) (operationsOf added), gather, namesOf_append_singleton]
  simp only [operationsOf_append_singleton]
  congr 1
  split
  · refine List.map_congr_left fun n _ => ?_
    split
    · rename_i h; rw [h]
    · rfl
  · rename_i hg
    rw [List.map_append, List.map_singleton, if_pos rfl]
    congr 1
    refine List.map_congr_left fun n hn => ?_
    have hne : n ≠ group := by rintro rfl; exact hg hn
    rw [if_neg hne]

/-! ### What the groups of a list have -/

/-- Every operation that was added is in the groups, as often as it was added. -/
theorem operations_gather_perm (added : List (String × Operation)) :
    (gather added).operations.Perm (added.map (·.2)) := by
  have hall : ∀ names : List String, names.Nodup →
      (names.flatMap fun n => added.filter fun o => o.1 = n).Perm
        (added.filter fun o => o.1 ∈ names) := by
    intro names hn
    induction names with
    | nil => simp
    | cons n names ih =>
      rw [List.nodup_cons] at hn
      have hsplit := List.filter_append_perm (fun o => decide (o.1 = n))
        (added.filter fun o => o.1 ∈ n :: names)
      rw [List.filter_filter, List.filter_filter] at hsplit
      refine List.Perm.trans ?_ hsplit
      rw [List.flatMap_cons]
      refine .append (.of_eq ?_) ((ih hn.2).trans (.of_eq ?_))
      · exact List.filter_congr fun o _ => by by_cases h : o.1 = n <;> simp [h]
      · refine List.filter_congr fun o _ => ?_
        by_cases h : o.1 = n
        · simp [h, hn.1]
        · simp [h]
  have hcover : (added.filter fun o => o.1 ∈ namesOf added) = added :=
    List.filter_eq_self.mpr fun o ho => decide_eq_true (mem_namesOf.mpr ⟨o.2, ho⟩)
  have hperm := (hall (namesOf added) (nodup_namesOf added)).map (·.2)
  rw [hcover] at hperm
  refine List.Perm.trans (.of_eq ?_) hperm
  rw [operations, gather, List.flatMap_map, List.map_flatMap]
  rfl

end ApiModel.Groups

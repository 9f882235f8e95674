/-!
# Splitting at a separator

`once?` divides at the first occurrence, `parts` at every one; both keep all other characters. What is
divided once is put together again by the separator (`eq_of_once?`), and texts without separators that
are put together are parts again (`parts_flatMap`).
-/

namespace ApiModel.Split

/-- What stands before and after the first separator. -/
def once? (sep : Char) : List Char → Option (List Char × List Char)
  | [] => none
  | c :: cs =>
    if c = sep then some ([], cs) else (once? sep cs).map fun (before, after) => (c :: before, after)

/-- The texts between separators: one more than there are separators. -/
def parts (sep : Char) : List Char → List (List Char)
  | [] => [[]]
  | c :: cs =>
    if c = sep then [] :: parts sep cs
    else
      match parts sep cs with
      | [] => [[c]]
      | p :: ps => (c :: p) :: ps

theorem eq_of_once? {sep : Char} {cs before after : List Char}
    (h : once? sep cs = some (before, after)) : cs = before ++ sep :: after ∧ sep ∉ before := by
  induction cs generalizing before with
  | nil => simp [once?] at h
  | cons c cs ih =>
    by_cases hc : c = sep
    · simp only [once?, hc, if_true, Option.some.injEq, Prod.mk.injEq] at h
      obtain ⟨rfl, rfl⟩ := h
      simp [hc]
    · simp only [once?, hc, if_false, Option.map_eq_some_iff, Prod.exists, Prod.mk.injEq] at h
      obtain ⟨b, a, h, rfl, rfl⟩ := h
      have := ih h
      simp [this.1, this.2, Ne.symm hc]

theorem once?_eq_none_iff {sep : Char} {cs : List Char} : once? sep cs = none ↔ sep ∉ cs := by
  induction cs with
  | nil => simp [once?]
  | cons c cs ih =>
    by_cases hc : c = sep
    · simp [once?, hc]
    · simp [once?, hc, ih, Ne.symm hc]

/-- The first separator is the one that has none before it. -/
theorem once?_eq_some_iff {sep : Char} {cs before after : List Char} :
    once? sep cs = some (before, after) ↔ cs = before ++ sep :: after ∧ sep ∉ before := by
  refine ⟨eq_of_once?, ?_⟩
  rintro ⟨rfl, hfree⟩
  induction before with
  | nil => rw [List.nil_append, once?, if_pos rfl]
  | cons c before ih =>
    rw [List.mem_cons, not_or] at hfree
    rw [List.cons_append, once?, if_neg (Ne.symm hfree.1), ih hfree.2]
    rfl

theorem parts_of_notMem {sep : Char} {cs : List Char} (h : sep ∉ cs) : parts sep cs = [cs] := by
  induction cs with
  | nil => rfl
  | cons c cs ih =>
    rw [List.mem_cons, not_or] at h
    rw [parts, if_neg (Ne.symm h.1), ih h.2]

theorem parts_append {sep : Char} {cs : List Char} (h : sep ∉ cs) (ds : List Char) :
    parts sep (cs ++ sep :: ds) = cs :: parts sep ds := by
  induction cs with
  | nil => rw [List.nil_append, parts, if_pos rfl]
  | cons c cs ih =>
    rw [List.mem_cons, not_or] at h
    rw [List.cons_append, parts, if_neg (Ne.symm h.1), ih h.2]

theorem parts_flatMap {κ : Type} {sep : Char} {write : κ → List Char} (h : ∀ k, sep ∉ write k) (k : κ)
    (ks : List κ) :
    parts sep (write k ++ ks.flatMap fun k => sep :: write k) = (k :: ks).map write := by
  induction ks generalizing k with
  | nil => simp [parts_of_notMem (h k)]
  | cons k' ks ih =>
    rw [List.flatMap_cons, List.cons_append, parts_append (h k), ih k']
    rfl

end ApiModel.Split

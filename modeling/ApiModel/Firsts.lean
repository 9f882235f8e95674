/-!
# The first elements

`firsts key` keeps of the elements with one key the first, in their order: keys that are left are distinct
(`nodup_map_firsts`), and no key is lost (`mem_map_firsts`). Elements that come later are kept if their keys
are `fresh`, that is, not among those seen before (`firsts_append`).
-/

namespace ApiModel

variable {α β κ : Type} [DecidableEq κ] {key : α → κ}

/-- Of the elements with one key the first, in their order. -/
def firsts (key : α → κ) : List α → List α
  | [] => []
  | a :: as => a :: (firsts key as).filter fun b => key b ≠ key a

theorem mem_map_firsts {k : κ} {as : List α} : k ∈ (firsts key as).map key ↔ k ∈ as.map key := by
  induction as with
  | nil => rfl
  | cons a as ih =>
    simp only [firsts, List.map_cons, List.mem_cons, ← ih]
    by_cases hk : k = key a
    · simp [hk]
    · simp only [hk, false_or, List.mem_map, List.mem_filter, decide_eq_true_eq]
      constructor
      · rintro ⟨b, ⟨hb, -⟩, rfl⟩
        exact ⟨b, hb, rfl⟩
      · rintro ⟨b, hb, rfl⟩
        exact ⟨b, ⟨hb, hk⟩, rfl⟩

theorem mem_firsts_id {k : κ} {ks : List κ} : k ∈ firsts id ks ↔ k ∈ ks := by
  have h : k ∈ (firsts id ks).map id ↔ k ∈ ks.map id := mem_map_firsts
  rwa [List.map_id, List.map_id] at h

theorem nodup_map_firsts (key : α → κ) (as : List α) : ((firsts key as).map key).Nodup := by
  induction as with
  | nil => exact .nil
  | cons a as ih =>
    rw [firsts, List.map_cons, List.nodup_cons]
    refine ⟨?_, ih.sublist (List.filter_sublist.map key)⟩
    simp only [List.mem_map, List.mem_filter, decide_eq_true_eq]
    rintro ⟨b, ⟨-, hne⟩, he⟩
    exact hne he

theorem firsts_append_singleton (key : α → κ) (as : List α) (a : α) :
    firsts key (as ++ [a]) =
      if key a ∈ as.map key then firsts key as else firsts key as ++ [a] := by
  induction as with
  | nil => rfl
  | cons b as ih =>
    rw [List.cons_append, firsts, ih]
    by_cases hb : key a = key b
    · simp only [hb, List.map_cons, List.mem_cons, true_or, if_true, firsts]
      split <;> simp [hb]
    · simp only [List.map_cons, List.mem_cons, hb, false_or, firsts]
      split <;> simp [hb]

/-- The elements whose keys are not among those seen. -/
def fresh (key : α → κ) (seen : List κ) (as : List α) : List α := as.filter fun a => key a ∉ seen

/-- What was seen counts by its elements. -/
theorem fresh_congr {seen seen' : List κ}
    (h : ∀ k, k ∈ seen ↔ k ∈ seen') (as : List α) : fresh key seen as = fresh key seen' as :=
  List.filter_congr fun a _ => decide_eq_decide.mpr (not_congr (h (key a)))

theorem fresh_nil (key : α → κ) (as : List α) : fresh key [] as = as :=
  List.filter_eq_self.mpr (by simp)

/-- An element is passed over if its key was seen; otherwise its key is seen from then on. -/
theorem fresh_firsts_cons (key : α → κ) (seen : List κ) (a : α) (as : List α) :
    fresh key seen (firsts key (a :: as)) =
      if key a ∈ seen then fresh key seen (firsts key as)
      else a :: fresh key (key a :: seen) (firsts key as) := by
  rw [firsts, fresh, List.filter_cons, List.filter_filter]
  by_cases ha : key a ∈ seen
  · rw [if_neg (by simpa using ha), if_pos ha]
    refine List.filter_congr fun b _ => ?_
    by_cases hb : key b = key a
    · simp [hb, ha]
    · simp [hb]
  · rw [if_pos (by simpa using ha), if_neg ha]
    congr 1
    refine List.filter_congr fun b _ => ?_
    simp [Bool.and_comm]

theorem firsts_append (key : α → κ) (as bs : List α) :
    firsts key (as ++ bs) = firsts key as ++ fresh key (as.map key) (firsts key bs) := by
  induction as with
  | nil => exact (fresh_nil key _).symm
  | cons a as ih =>
    rw [List.cons_append, firsts, ih, List.filter_append, fresh, List.filter_filter, firsts,
      List.cons_append]
    congr 2
    refine List.filter_congr fun b _ => ?_
    simp [not_or]

/-- Elements of different keys are the first ones. -/
theorem firsts_of_nodup {as : List α} (hn : (as.map key).Nodup) : firsts key as = as := by
  induction as with
  | nil => rfl
  | cons a as ih =>
    rw [List.map_cons, List.nodup_cons] at hn
    rw [firsts, ih hn.2, List.filter_eq_self.mpr]
    intro b hb
    exact decide_eq_true fun he => hn.1 (he ▸ List.mem_map_of_mem hb)

/-- What comes after elements meets the same keys if only the first of these are kept. -/
theorem firsts_firsts_append (key : α → κ) (as bs : List α) :
    firsts key (firsts key as ++ bs) = firsts key (as ++ bs) := by
  rw [firsts_append, firsts_append, firsts_of_nodup (nodup_map_firsts key as)]
  simp only [fresh, mem_map_firsts]

theorem firsts_append_firsts (key : α → κ) (as bs : List α) :
    firsts key (as ++ firsts key bs) = firsts key (as ++ bs) := by
  rw [firsts_append, firsts_append, firsts_of_nodup (nodup_map_firsts key bs)]

/-- A function that tells the elements apart keeps the first ones. -/
theorem map_firsts {β : Type} [DecidableEq α] [DecidableEq β] {g : α → β} {as : List α}
    (hg : ∀ a ∈ as, ∀ b ∈ as, g a = g b → a = b) :
    (firsts id as).map g = firsts id (as.map g) := by
  induction as with
  | nil => rfl
  | cons a as ih =>
    have hrest := ih fun b hb c hc => hg b (List.mem_cons_of_mem _ hb) c (List.mem_cons_of_mem _ hc)
    rw [List.map_cons, firsts, firsts, List.map_cons, ← hrest, List.filter_map]
    congr 2
    refine List.filter_congr fun b hb => decide_eq_decide.mpr (not_congr ⟨congrArg g, fun he => ?_⟩)
    exact hg b (List.mem_cons_of_mem _ (mem_firsts_id.mp hb)) a (List.mem_cons_self ..) he

end ApiModel

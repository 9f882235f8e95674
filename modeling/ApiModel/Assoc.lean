import ApiModel.Firsts

/-!
# Association lists

Pairs in the order in which their keys first came. Writing to a key that is there keeps its place
(`keys_insert`), and a look-up finds the last value written (`get?_insert`). So the pairs of a list that
are written one after the other leave each key at its first place (`map_fst_ofList`) with its last value
(`get?_ofList`).
-/

namespace ApiModel.Assoc

variable {κ ν : Type} [DecidableEq κ]

def get? (k : κ) : List (κ × ν) → Option ν
  | [] => none
  | (k', v) :: rest => if k' = k then some v else get? k rest

def insert (k : κ) (v : ν) : List (κ × ν) → List (κ × ν)
  | [] => [(k, v)]
  | (k', v') :: rest => if k' = k then (k', v) :: rest else (k', v') :: insert k v rest

/-- The pairs written one after the other. -/
def ofList (pairs : List (κ × ν)) : List (κ × ν) :=
  pairs.foldl (fun acc p => insert p.1 p.2 acc) []

theorem get?_insert (k k' : κ) (v : ν) (xs : List (κ × ν)) :
    get? k' (insert k v xs) = if k = k' then some v else get? k' xs := by
  induction xs with
  | nil => simp [insert, get?]
  | cons p xs ih =>
    obtain ⟨a, w⟩ := p
    by_cases h : a = k
    · subst h; by_cases h' : a = k' <;> simp [insert, get?, h']
    · by_cases h' : a = k'
      · subst h'; simp [insert, get?, h, Ne.symm h]
      · simp [insert, get?, h, h', ih]

theorem get?_eq_none_iff {k : κ} {xs : List (κ × ν)} : get? k xs = none ↔ k ∉ xs.map (·.1) := by
  induction xs with
  | nil => simp [get?]
  | cons p xs ih =>
    obtain ⟨a, w⟩ := p
    by_cases h : a = k
    · simp [get?, h]
    · simp [get?, h, ih, Ne.symm h]

theorem mem_of_get? {k : κ} {v : ν} {xs : List (κ × ν)} (h : get? k xs = some v) : (k, v) ∈ xs := by
  induction xs with
  | nil => simp [get?] at h
  | cons p xs ih =>
    obtain ⟨a, w⟩ := p
    by_cases ha : a = k
    · simp [get?, ha] at h; simp [ha, h]
    · simp only [get?, ha, if_false] at h; exact List.mem_cons_of_mem _ (ih h)

theorem get?_of_mem {k : κ} {v : ν} {xs : List (κ × ν)} (hnd : (xs.map (·.1)).Nodup)
    (h : (k, v) ∈ xs) : get? k xs = some v := by
  induction xs with
  | nil => simp at h
  | cons p xs ih =>
    obtain ⟨a, w⟩ := p
    simp only [List.map_cons, List.nodup_cons] at hnd
    rcases List.mem_cons.mp h with h | h
    · simp only [Prod.mk.injEq] at h; simp [get?, h.1, h.2]
    · have : a ≠ k := fun e => hnd.1 (e ▸ List.mem_map.mpr ⟨_, h, rfl⟩)
      simp [get?, this, ih hnd.2 h]

theorem keys_insert (k : κ) (v : ν) (xs : List (κ × ν)) :
    (insert k v xs).map (·.1) =
      if k ∈ xs.map (·.1) then xs.map (·.1) else xs.map (·.1) ++ [k] := by
  induction xs with
  | nil => simp [insert]
  | cons p xs ih =>
    obtain ⟨a, w⟩ := p
    by_cases h : a = k
    · simp [insert, h]
    · simp only [insert, h, if_false, List.map_cons, ih, List.mem_cons, Ne.symm h, false_or]
      split <;> simp

theorem get?_filter_ne (key k : κ) (xs : List (κ × ν)) :
    get? k (xs.filter fun p => p.1 ≠ key) = if key = k then none else get? k xs := by
  induction xs with
  | nil => simp [get?]
  | cons p xs ih =>
    obtain ⟨a, v⟩ := p
    by_cases ha : a = key
    · subst ha
      by_cases hk : a = k
      · subst hk
        simpa using ih
      · simpa [get?, hk] using ih
    · by_cases hk : a = k
      · subst hk
        simp [get?, ha, Ne.symm ha]
      · simpa [get?, ha, hk] using ih

theorem get?_map {μ : Type} (g : κ → ν → μ) (k : κ) (xs : List (κ × ν)) :
    get? k (xs.map fun p => (p.1, g p.1 p.2)) = (get? k xs).map (g k) := by
  induction xs with
  | nil => rfl
  | cons p xs ih =>
    obtain ⟨a, v⟩ := p
    by_cases ha : a = k
    · subst ha
      simp [get?]
    · simpa [get?, ha] using ih

/-- Look-ups in lists that agree pair by pair agree. -/
theorem rel_get? {α β : Type} {R : κ → α → β → Prop} {as : List (κ × α)} {bs : List (κ × β)}
    (hlength : as.length = bs.length)
    (h : ∀ p ∈ as.zip bs, p.1.1 = p.2.1 ∧ R p.1.1 p.1.2 p.2.2) (k : κ) :
    Option.Rel (R k) (get? k as) (get? k bs) := by
  induction as generalizing bs with
  | nil =>
    rw [List.eq_nil_of_length_eq_zero hlength.symm]
    exact .none
  | cons a as ih =>
    cases bs with
    | nil => cases hlength
    | cons b bs =>
      obtain ⟨key, v⟩ := a
      obtain ⟨key', w⟩ := b
      rw [List.zip_cons_cons, List.forall_mem_cons] at h
      obtain ⟨⟨hkey, hvw⟩, hrest⟩ := h
      obtain rfl : key = key' := hkey
      unfold get?
      split
      · rename_i hk
        exact .some (hk ▸ hvw)
      · exact ih (Nat.succ.inj hlength) hrest

theorem map_snd_eq_filterMap {pairs : List (κ × ν)} (hn : (pairs.map (·.1)).Nodup) :
    pairs.map (·.2) = (pairs.map (·.1)).filterMap fun k => get? k pairs := by
  have found : ∀ qs : List (κ × ν), qs ⊆ pairs →
      qs.map (·.2) = (qs.map (·.1)).filterMap fun k => get? k pairs := by
    intro qs hqs
    induction qs with
    | nil => rfl
    | cons q qs ih =>
      rw [List.cons_subset] at hqs
      have hq : get? q.1 pairs = some q.2 := get?_of_mem hn hqs.1
      simp only [List.map_cons, List.filterMap_cons, hq, ih hqs.2]
  exact found pairs (List.Subset.refl _)

theorem mem_of_mem_insert {k : κ} {v : ν} {pairs : List (κ × ν)} {p : κ × ν}
    (h : p ∈ insert k v pairs) : p = (k, v) ∨ p ∈ pairs := by
  induction pairs with
  | nil => exact .inl (List.mem_singleton.mp h)
  | cons q pairs ih =>
    obtain ⟨k', v'⟩ := q
    unfold insert at h
    split at h
    · rename_i hk
      rw [hk] at h
      exact (List.mem_cons.mp h).imp_right (List.mem_cons_of_mem _)
    · rcases List.mem_cons.mp h with rfl | h
      · exact .inr (List.mem_cons_self ..)
      · exact (ih h).imp_right (List.mem_cons_of_mem _)

/-- The value at a key is the last that was written. -/
theorem get?_ofList (k : κ) (pairs : List (κ × ν)) :
    get? k (ofList pairs) = (pairs.reverse.find? fun p => p.1 = k).map (·.2) := by
  -- What was there at the start is found if nothing was written.
  have written : ∀ start, get? k (pairs.foldl (fun acc p => insert p.1 p.2 acc) start) =
      ((pairs.reverse.find? fun p => p.1 = k).map (·.2)).or (get? k start) := by
    induction pairs with
    | nil => exact fun _ => rfl
    | cons p pairs ih =>
      intro start
      rw [List.foldl_cons, ih, get?_insert, List.reverse_cons, List.find?_append]
      cases pairs.reverse.find? fun p => p.1 = k with
      | some q => rfl
      | none => by_cases h : p.1 = k <;> simp [h]
  rw [ofList, written, get?, Option.or_none]

theorem map_fst_ofList (pairs : List (κ × ν)) :
    (ofList pairs).map (·.1) = firsts id (pairs.map (·.1)) := by
  have written : ∀ start, (pairs.foldl (fun acc p => insert p.1 p.2 acc) start).map (·.1) =
      start.map (·.1) ++ fresh id (start.map (·.1)) (firsts id (pairs.map (·.1))) := by
    induction pairs with
    | nil => exact fun _ => (List.append_nil _).symm
    | cons p pairs ih =>
      intro start
      rw [List.foldl_cons, ih, keys_insert, List.map_cons, fresh_firsts_cons]
      by_cases hk : p.1 ∈ start.map (·.1)
      · rw [if_pos hk, if_pos (by exact hk)]
      · have hseen : ∀ k, k ∈ start.map (·.1) ++ [p.1] ↔ k ∈ p.1 :: start.map (·.1) := fun k => by
          rw [List.mem_append, List.mem_singleton, List.mem_cons, or_comm]
        rw [if_neg hk, if_neg (by exact hk), List.append_assoc, fresh_congr hseen]
        rfl
  exact (written []).trans (fresh_nil id _)

theorem mem_of_mem_ofList {pairs : List (κ × ν)} {p : κ × ν} : p ∈ ofList pairs → p ∈ pairs := by
  have written : ∀ start, p ∈ pairs.foldl (fun acc p => insert p.1 p.2 acc) start →
      p ∈ start ∨ p ∈ pairs := by
    induction pairs with
    | nil => exact fun _ => .inl
    | cons q pairs ih =>
      intro start hp
      rcases ih _ hp with hp | hp
      · rcases mem_of_mem_insert hp with rfl | hp
        · exact .inr (List.mem_cons_self ..)
        · exact .inl hp
      · exact .inr (List.mem_cons_of_mem _ hp)
  exact fun h => (written [] h).resolve_left List.not_mem_nil

end ApiModel.Assoc

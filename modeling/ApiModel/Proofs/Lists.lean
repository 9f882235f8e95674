import Mathlib.Data.List.Forall2

/-!
# Lists that correspond item by item

What is known of an item of one of two lists that correspond, by the item that it corresponds to. Lists of
pairs correspond if their keys are the same and their values do, place by place.
-/

namespace ApiModel

variable {α β : Type} {R S : α → β → Prop} {xs : List α} {ys : List β}

theorem exists_right_of_forall₂ (h : List.Forall₂ R xs ys) {a : α} (ha : a ∈ xs) :
    ∃ b ∈ ys, R a b := by
  induction h with
  | nil => cases ha
  | cons hr _ ih =>
    rcases List.mem_cons.mp ha with rfl | ha
    · exact ⟨_, List.mem_cons_self .., hr⟩
    · obtain ⟨b, hb, hab⟩ := ih ha
      exact ⟨b, List.mem_cons_of_mem _ hb, hab⟩

theorem exists_left_of_forall₂ (h : List.Forall₂ R xs ys) {b : β} (hb : b ∈ ys) :
    ∃ a ∈ xs, R a b :=
  exists_right_of_forall₂ (List.Forall₂.flip (R := fun b a => R a b) h) hb

theorem forall₂_imp_of_mem (h : List.Forall₂ R xs ys) (hi : ∀ a, ∀ b ∈ ys, R a b → S a b) :
    List.Forall₂ S xs ys := by
  induction h with
  | nil => exact .nil
  | cons hr _ ih =>
    exact .cons (hi _ _ (List.mem_cons_self ..) hr)
      (ih fun a b hb => hi a b (List.mem_cons_of_mem _ hb))

theorem forall₂_zipIdx (h : List.Forall₂ R xs ys) (n : Nat) :
    List.Forall₂ (fun a b => a.2 = b.2 ∧ R a.1 b.1) (xs.zipIdx n) (ys.zipIdx n) := by
  induction h generalizing n with
  | nil => exact .nil
  | cons hab _ ih => exact .cons ⟨rfl, hab⟩ (ih (n + 1))

theorem forall₂_of_keys {κ : Type} {R : κ → α → β → Prop} {as : List (κ × α)} {bs : List (κ × β)}
    (hkeys : as.map (·.1) = bs.map (·.1)) (h : ∀ p ∈ as.zip bs, R p.1.1 p.1.2 p.2.2) :
    List.Forall₂ (fun a b => a.1 = b.1 ∧ R a.1 a.2 b.2) as bs := by
  induction as generalizing bs with
  | nil => rw [List.map_eq_nil_iff.mp hkeys.symm]; exact .nil
  | cons a as ih =>
    obtain ⟨b, bs, rfl, hab, hrest⟩ := List.map_eq_cons_iff.mp hkeys.symm
    rw [List.zip_cons_cons, List.forall_mem_cons] at h
    exact .cons ⟨hab.symm, h.1⟩ (ih hrest.symm h.2)

end ApiModel

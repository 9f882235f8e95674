import ApiModel.Memo

/-!
# Memories in use

A session is a memory with the state that its producers share, and the keys for which a producer has
run. Whatever is asked of the memory, a key that it knows it never forgets, so it has no key's work done
twice (`Accounted`). A call does not change what is known of a key, so as long as there are only calls
each gets the answer of the first (`memoize_again`); the steps that work takes by itself may change it.
-/

namespace ApiModel.Memo

/-- Work that may use a state and change it. -/
abbrev Producer (ν ε σ : Type) := StateM σ (Except ε ν)

/-- What is asked of a memory: the outcome of work that is done if it is not known, or a step that work
takes by itself. -/
inductive Use (κ ν ε σ : Type)
  | memoize (key : Option κ) (produce : Producer ν ε σ)
  | begin (key : κ) (value : ν)
  | complete (key : κ) (value : ν)
  | fail (key : κ)
  | failValues (values : List ν)

structure Session (κ ν σ : Type) where
  memo : Memo κ ν := {}
  state : σ
  /-- The keys for which a producer has run, the latest last. -/
  produced : List (Option κ) := []

section

variable {κ ν ε σ : Type}

/-- The same work, with a note of the key for which it is done. -/
def Producer.noting (produce : Producer ν ε σ) (key : Option κ) :
    Producer ν ε (σ × List (Option κ)) := fun (state, produced) =>
  let (outcome, state) := produce state
  (outcome, state, produced ++ [key])

/-- How work ended, once it has been done. -/
def Entry.ofOutcome : Except ε ν → Entry ν
  | .ok v => .done v
  | .error _ => .failed

/-- The answer to a call for a key that is known. -/
def Entry.answer : Entry ν → Except (Option ε) ν
  | .inProgress v | .done v => .ok v
  | .failed => .error none

/-- The answer to a later call: the same value, or an error that is not told again. -/
def again : Except (Option ε) ν → Except (Option ε) ν
  | .ok v => .ok v
  | .error _ => .error none

end

variable {κ ν ε σ : Type} [DecidableEq κ]

namespace Session

/-- The answer to a call, and the session after it. -/
def memoize (s : Session κ ν σ) (key : Option κ) (produce : Producer ν ε σ) :
    Option (Except (Option ε) ν) × Session κ ν σ :=
  let ((answer, memo), state, produced) :=
    s.memo.memoize key (produce.noting key) (s.state, s.produced)
  (answer, ⟨memo, state, produced⟩)

/-- The session after the work for a key was done. -/
def produces (s : Session κ ν σ) (k : κ) (produce : Producer ν ε σ) : Session κ ν σ where
  memo := s.memo.set k (.ofOutcome (produce s.state).1)
  state := (produce s.state).2
  produced := s.produced ++ [some k]

end Session

/-- The session after a use of the memory. -/
def Use.run [DecidableEq ν] (u : Use κ ν ε σ) (s : Session κ ν σ) : Session κ ν σ :=
  match u with
  | memoize key produce => (s.memoize key produce).2
  | begin key value => { s with memo := s.memo.begin key value }
  | complete key value => { s with memo := s.memo.complete key value }
  | fail key => { s with memo := s.memo.fail key }
  | failValues values => { s with memo := s.memo.failValues values }

namespace Session

section

variable {s : Session κ ν σ} {key : Option κ} {k : κ} {e : Entry ν}

theorem memoize_none (s : Session κ ν σ) (produce : Producer ν ε σ) :
    s.memoize none produce = (none, s) := rfl

theorem memoize_of_known (he : s.memo.get? k = some e) (produce : Producer ν ε σ) :
    s.memoize (some k) produce = (some e.answer, s) := by
  unfold memoize Memo.memoize
  cases e <;> simp only [he] <;> rfl

theorem memoize_of_new (hn : s.memo.get? k = none) (produce : Producer ν ε σ) :
    s.memoize (some k) produce = (some ((produce s.state).1.mapError some), s.produces k produce) := by
  have hrun : produce.noting (some k) (s.state, s.produced) =
      ((produce s.state).1, (produce s.state).2, s.produced ++ [some k]) := rfl
  unfold memoize Memo.memoize produces
  simp only [hn, bind, StateT.bind, hrun]
  cases (produce s.state).1 <;> rfl

/-- No call changes what is known of a key. -/
theorem get?_memoize_of_known (he : s.memo.get? k = some e) (key : Option κ)
    (produce : Producer ν ε σ) : (s.memoize key produce).2.memo.get? k = some e := by
  cases key with
  | none => exact he
  | some k' =>
    cases hk' : s.memo.get? k' with
    | some e' => rw [memoize_of_known hk']; exact he
    | none =>
      have hne : k' ≠ k := by rintro rfl; rw [hk'] at he; cases he
      rw [memoize_of_new hk']
      exact (s.memo.get?_set k' k _).trans (by rw [if_neg hne, he])

theorem get?_memoize_of_ne (hne : key ≠ some k) (produce : Producer ν ε σ) :
    (s.memoize key produce).2.memo.get? k = s.memo.get? k := by
  cases key with
  | none => rfl
  | some k' =>
    cases hk' : s.memo.get? k' with
    | some e' => rw [memoize_of_known hk']
    | none =>
      rw [memoize_of_new hk']
      exact (s.memo.get?_set k' k _).trans (if_neg fun he => hne (congrArg some he))

/-- After a call for it a key is known, by what the call answers. -/
theorem exists_entry_of_memoize (s : Session κ ν σ) (k : κ) (produce : Producer ν ε σ) :
    ∃ e, (s.memoize (some k) produce).2.memo.get? k = some e ∧
      (s.memoize (some k) produce).1.map again = some e.answer := by
  cases hk : s.memo.get? k with
  | some e =>
    refine ⟨e, get?_memoize_of_known hk _ produce, ?_⟩
    rw [memoize_of_known hk]
    cases e <;> rfl
  | none =>
    refine ⟨.ofOutcome (produce s.state).1, ?_, ?_⟩
    · rw [memoize_of_new hk]
      exact (s.memo.get?_set k k _).trans (if_pos rfl)
    · rw [memoize_of_new hk]
      cases (produce s.state).1 <;> rfl

/-! ### What was produced -/

/-- No key's work was done twice, and each key for which it was done is known. -/
structure Accounted (s : Session κ ν σ) : Prop where
  once : s.produced.Nodup
  known : ∀ key ∈ s.produced, ∃ k, key = some k ∧ (s.memo.get? k).isSome

namespace Accounted

theorem initial (state : σ) : Accounted ({ state } : Session κ ν σ) where
  once := List.nodup_nil
  known key hkey := by cases hkey

/-- A change of the memory that forgets no key. -/
theorem of_known (h : s.Accounted) {m : Memo κ ν}
    (hm : ∀ k, (s.memo.get? k).isSome → (m.get? k).isSome) : Accounted { s with memo := m } where
  once := h.once
  known key hkey := by
    obtain ⟨k, hk, hs⟩ := h.known key hkey
    exact ⟨k, hk, hm k hs⟩

theorem set (h : s.Accounted) (k : κ) (e : Entry ν) : Accounted { s with memo := s.memo.set k e } := by
  refine h.of_known fun k' hk' => ?_
  rw [s.memo.get?_set]
  split
  · rfl
  · exact hk'

theorem produces (h : s.Accounted) (hk : s.memo.get? k = none) (produce : Producer ν ε σ) :
    (s.produces k produce).Accounted := by
  have hnew : some k ∉ s.produced := by
    intro hmem
    obtain ⟨k', hk', hknown⟩ := h.known _ hmem
    cases hk'
    rw [hk] at hknown
    cases hknown
  refine ⟨?once, fun key hkey => ?known⟩
  case once =>
    refine List.nodup_append.mpr ⟨h.once, by simp, fun a ha b hb hab => hnew ?_⟩
    rw [← List.mem_singleton.mp hb, ← hab]
    exact ha
  case known =>
    rcases List.mem_append.mp hkey with hkey | hkey
    · exact (h.set k (.ofOutcome (produce s.state).1)).known key hkey
    · refine ⟨k, List.mem_singleton.mp hkey, ?_⟩
      show ((s.memo.set k _).get? k).isSome
      rw [s.memo.get?_set, if_pos rfl]
      rfl

theorem memoize (h : s.Accounted) (key : Option κ) (produce : Producer ν ε σ) :
    (s.memoize key produce).2.Accounted := by
  cases key with
  | none => exact h
  | some k =>
    cases hk : s.memo.get? k with
    | some e => rw [memoize_of_known hk]; exact h
    | none => rw [memoize_of_new hk]; exact h.produces hk produce

end Accounted

end

variable [DecidableEq ν] {s : Session κ ν σ} {k : κ} {e : Entry ν}

/-- The session after some uses. -/
def after (us : List (Use κ ν ε σ)) (s : Session κ ν σ) : Session κ ν σ :=
  us.foldl (fun s u => u.run s) s

/-- The session after some calls and nothing else. -/
abbrev afterCalls (calls : List (Option κ × Producer ν ε σ)) (s : Session κ ν σ) : Session κ ν σ :=
  s.after (calls.map fun (key, produce) => .memoize key produce)

/-- What is known of a key is what it was after any calls. -/
theorem get?_afterCalls (he : s.memo.get? k = some e) (calls : List (Option κ × Producer ν ε σ)) :
    (s.afterCalls calls).memo.get? k = some e := by
  induction calls generalizing s with
  | nil => exact he
  | cons call calls ih => exact ih (get?_memoize_of_known he call.1 call.2)

/-- A call for the same key, after any other calls, gets the same answer, and nothing is done for it. -/
theorem memoize_again (s : Session κ ν σ) (k : κ) (produce : Producer ν ε σ)
    (calls : List (Option κ × Producer ν ε σ)) (produce' : Producer ν ε σ) :
    ((s.memoize (some k) produce).2.afterCalls calls).memoize (some k) produce' =
      ((s.memoize (some k) produce).1.map again, (s.memoize (some k) produce).2.afterCalls calls) := by
  obtain ⟨e, he, hanswer⟩ := s.exists_entry_of_memoize k produce
  rw [memoize_of_known (get?_afterCalls he calls), hanswer]

namespace Accounted

theorem run (h : s.Accounted) (u : Use κ ν ε σ) : (u.run s).Accounted := by
  cases u with
  | memoize key produce => exact h.memoize key produce
  | begin key value | complete key value | fail key => exact h.set key _
  | failValues values =>
    refine h.of_known fun k hk => ?_
    rw [s.memo.get?_failValues, Option.isSome_map]
    exact hk

theorem after (h : s.Accounted) (us : List (Use κ ν ε σ)) : (s.after us).Accounted := by
  induction us generalizing s with
  | nil => exact h
  | cons u us ih => exact ih (h.run u)

end Accounted

/-- What a call does in a session, and what later calls for its key get. -/
structure Consults (s : Session κ ν σ) (key : Option κ) (produce : Producer ν ε σ) : Prop where
  absent : key = none → s.memoize key produce = (none, s)
  known : ∀ k e, key = some k → s.memo.get? k = some e → s.memoize key produce = (some e.answer, s)
  new : ∀ k, key = some k → s.memo.get? k = none → s.memoize key produce =
    (some ((produce s.state).1.mapError some), s.produces k produce)
  /-- An entry that is there stays as it is. -/
  kept : ∀ k e, s.memo.get? k = some e → (s.memoize key produce).2.memo.get? k = some e
  others : ∀ k, key ≠ some k → (s.memoize key produce).2.memo.get? k = s.memo.get? k
  lasting : ∀ k, key = some k → ∀ (calls : List (Option κ × Producer ν ε σ)) (produce' : Producer ν ε σ),
    ((s.memoize key produce).2.afterCalls calls).memoize (some k) produce' =
      ((s.memoize key produce).1.map again, (s.memoize key produce).2.afterCalls calls)

/-- Which entries become failures if some values fail, and that the others stay. -/
structure FailsValues (m : Memo κ ν) (vs : List ν) (m' : Memo κ ν) : Prop where
  failed : ∀ k, ∀ v ∈ vs, m.get? k = some (.done v) → m'.get? k = some .failed
  kept : ∀ k, (∀ v ∈ vs, m.get? k ≠ some (.done v)) → m'.get? k = m.get? k

theorem consults (s : Session κ ν σ) (key : Option κ) (produce : Producer ν ε σ) :
    s.Consults key produce where
  absent hkey := by rw [hkey]; exact s.memoize_none produce
  known k e hkey he := by rw [hkey]; exact memoize_of_known he produce
  new k hkey hk := by rw [hkey]; exact memoize_of_new hk produce
  kept k e he := get?_memoize_of_known he key produce
  others k hne := get?_memoize_of_ne hne produce
  lasting k hkey calls produce' := by rw [hkey]; exact memoize_again s k produce calls produce'

theorem failsValues (m : Memo κ ν) (vs : List ν) : FailsValues m vs (m.failValues vs) where
  failed k v hv hk := by
    rw [get?_failValues]
    exact map_failValues_eq_failed_iff.mpr (.inr ⟨v, hv, hk⟩)
  kept k hk := by
    rw [get?_failValues]
    rcases he : m.get? k with - | (v | v | -)
    · rfl
    · rfl
    · have hv : v ∉ vs := fun hv => hk v hv he
      simp [Entry.failValues, hv]
    · rfl

/-- In any session, no producer runs for a key for which one has run, and none without a key. Calls for a
key get the answer of the first, a failure without its error, and leave every entry as it is that is there;
only finished work with one of the values fails with them. -/
theorem memoizes_once (state : σ) (us : List (Use κ ν ε σ)) :
    let s : Session κ ν σ := Session.after us { state }
    s.produced.Nodup ∧ none ∉ s.produced ∧
      (∀ (key : Option κ) (produce : Producer ν ε σ), s.Consults key produce) ∧
      ∀ values : List ν, FailsValues s.memo values ((Use.failValues values : Use κ ν ε σ).run s).memo := by
  intro s
  have h : s.Accounted := (Accounted.initial state).after us
  refine ⟨h.once, fun hnone => ?_, s.consults, failsValues s.memo⟩
  obtain ⟨k, hk, -⟩ := h.known none hnone
  cases hk

end Session

end ApiModel.Memo

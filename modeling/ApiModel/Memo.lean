import ApiModel.Assoc

/-!
# Memory of work done

For each key the memory knows whether work on it was begun, and how it ended. Work that was begun
already has the value that it will have, so that it can refer to itself. A failure is not tried
again (`memoize`).
-/

namespace ApiModel

inductive Memo.Entry (ν : Type)
  | inProgress (value : ν)
  | done (value : ν)
  | failed
deriving DecidableEq

/-- The value, also before the work on it has ended. -/
def Memo.Entry.value? {ν : Type} : Memo.Entry ν → Option ν
  | .inProgress v | .done v => some v
  | .failed => none

structure Memo (κ ν : Type) where
  entries : List (κ × Memo.Entry ν) := []

namespace Memo

variable {κ ν : Type} [DecidableEq κ]

def empty : Memo κ ν := {}

def get? (m : Memo κ ν) (k : κ) : Option (Entry ν) := Assoc.get? k m.entries

def contains (m : Memo κ ν) (k : κ) : Bool := (m.get? k).isSome

def size (m : Memo κ ν) : Nat := m.entries.length

def isEmpty (m : Memo κ ν) : Bool := m.entries.isEmpty

def set (m : Memo κ ν) (k : κ) (e : Entry ν) : Memo κ ν := ⟨Assoc.insert k e m.entries⟩

def begin (m : Memo κ ν) (k : κ) (v : ν) : Memo κ ν := m.set k (.inProgress v)

def complete (m : Memo κ ν) (k : κ) (v : ν) : Memo κ ν := m.set k (.done v)

def fail (m : Memo κ ν) (k : κ) : Memo κ ν := m.set k .failed

/-- Finished work with one of the values becomes a failure. -/
def Entry.failValues [DecidableEq ν] (vs : List ν) : Entry ν → Entry ν
  | .done v => if v ∈ vs then .failed else .done v
  | e => e

def failValues [DecidableEq ν] (m : Memo κ ν) (vs : List ν) : Memo κ ν :=
  ⟨m.entries.map fun (k, e) => (k, e.failValues vs)⟩

/-- The outcome of work that may have been done before: an error is known only the first time. -/
def memoize {μ : Type → Type} [Monad μ] {ε : Type} (m : Memo κ ν) (key : Option κ)
    (produce : μ (Except ε ν)) : μ (Option (Except (Option ε) ν) × Memo κ ν) :=
  match key with
  | none => pure (none, m)
  | some k =>
    match m.get? k with
    | some (.inProgress v) | some (.done v) => pure (some (.ok v), m)
    | some .failed => pure (some (.error none), m)
    | none => do
      match ← produce with
      | .ok v => pure (some (.ok v), m.complete k v)
      | .error e => pure (some (.error (some e)), m.fail k)

/-! ### What each operation does to the entries -/

theorem get?_set (m : Memo κ ν) (k k' : κ) (e : Entry ν) :
    (m.set k e).get? k' = if k = k' then some e else m.get? k' :=
  Assoc.get?_insert k k' e m.entries

theorem get?_begin (m : Memo κ ν) (k k' : κ) (v : ν) :
    (m.begin k v).get? k' = if k = k' then some (.inProgress v) else m.get? k' :=
  m.get?_set k k' _

theorem get?_complete (m : Memo κ ν) (k k' : κ) (v : ν) :
    (m.complete k v).get? k' = if k = k' then some (.done v) else m.get? k' :=
  m.get?_set k k' _

theorem get?_fail (m : Memo κ ν) (k k' : κ) :
    (m.fail k).get? k' = if k = k' then some .failed else m.get? k' :=
  m.get?_set k k' _

theorem get?_failValues [DecidableEq ν] (m : Memo κ ν) (vs : List ν) (k : κ) :
    (m.failValues vs).get? k = (m.get? k).map (·.failValues vs) := by
  obtain ⟨es⟩ := m
  simp only [get?, failValues]
  induction es with
  | nil => rfl
  | cons p es ih =>
    obtain ⟨k', e⟩ := p
    by_cases h : k' = k <;> simp [Assoc.get?, h, ih]

/-- Work is done after some values have failed if it was, with another value. -/
theorem map_failValues_eq_done_iff [DecidableEq ν] {e : Option (Entry ν)} {vs : List ν} {v : ν} :
    e.map (·.failValues vs) = some (.done v) ↔ e = some (.done v) ∧ v ∉ vs := by
  rcases e with - | (w | w | -)
  · simp
  · simp [Entry.failValues]
  · by_cases hw : w ∈ vs
    · have hne : ¬ (w = v ∧ v ∉ vs) := by rintro ⟨rfl, h⟩; exact h hw
      simpa [Entry.failValues, hw] using hne
    · have heq : w = v ↔ w = v ∧ v ∉ vs := ⟨fun h => ⟨h, h ▸ hw⟩, And.left⟩
      simpa [Entry.failValues, hw] using heq
  · simp [Entry.failValues]

theorem map_failValues_eq_failed_iff [DecidableEq ν] {e : Option (Entry ν)} {vs : List ν} :
    e.map (·.failValues vs) = some .failed ↔ e = some .failed ∨ ∃ v ∈ vs, e = some (.done v) := by
  rcases e with - | (w | w | -) <;> simp [Entry.failValues]

end Memo

end ApiModel

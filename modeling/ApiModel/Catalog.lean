import ApiModel.Schema.Basic

/-!
# The catalog of schemas

Schemas have slots, numbered in the order in which they were taken. A slot may be reserved before
its schema is known, so that a schema can refer to itself. A slot whose schema turns out to be
impossible stays empty, and `withdraw` empties the later slots that depend on it.
-/

namespace ApiModel

structure Catalog where
  slots : Array (Option Schema) := #[]

namespace Catalog

def empty : Catalog := {}

/-- The id of the slot that will be taken next. -/
def nextId (c : Catalog) : SchemaId := ⟨c.slots.size⟩

def get? (c : Catalog) (id : SchemaId) : Option Schema := (c.slots[id.index]?).join

/-- Takes a slot and leaves it empty; its id is `nextId`. -/
def reserve (c : Catalog) : Catalog := ⟨c.slots.push none⟩

/-- Takes a slot for a schema; its id is `nextId`. -/
def add (c : Catalog) (s : Schema) : Catalog := ⟨c.slots.push (some s)⟩

def fill (c : Catalog) (id : SchemaId) (s : Schema) : Catalog :=
  ⟨c.slots.setIfInBounds id.index (some s)⟩

def clear (c : Catalog) (id : SchemaId) : Catalog := ⟨c.slots.setIfInBounds id.index none⟩

/-- The number of schemas. -/
def size (c : Catalog) : Nat := c.slots.countP (·.isSome)

/-- The schemas with their ids. -/
def toList (c : Catalog) : List (SchemaId × Schema) :=
  c.slots.toList.zipIdx.filterMap fun (slot, i) => slot.map fun s => (⟨i⟩, s)

/-- The first schema of a name. -/
def find? (c : Catalog) (name : String) : Option (SchemaId × Schema) :=
  c.toList.find? fun (_, s) => s.name = name

def isStream (c : Catalog) (id : SchemaId) : Bool := (c.get? id).any (·.kind.isStream)

theorem lt_size_of_get? {c : Catalog} {id : SchemaId} {s : Schema} (h : c.get? id = some s) :
    id.index < c.slots.size := by
  rcases Nat.lt_or_ge id.index c.slots.size with hi | hi
  · exact hi
  · simp [get?, Array.getElem?_eq_none hi] at h

theorem get?_of_mem_toList {c : Catalog} {id : SchemaId} {s : Schema}
    (h : (id, s) ∈ c.toList) : c.get? id = some s := by
  obtain ⟨⟨slot, i⟩, hm, hs⟩ := List.mem_filterMap.mp h
  obtain ⟨s', hs', he⟩ := Option.map_eq_some_iff.mp hs
  cases he
  rw [List.mem_zipIdx_iff_getElem?, Array.getElem?_toList] at hm
  simp only [get?, hm, Option.join_some]
  exact hs'

/-! ### What each operation does to the slots -/

theorem get?_add (c : Catalog) (s : Schema) (id : SchemaId) :
    (c.add s).get? id = if id = c.nextId then some s else c.get? id := by
  obtain ⟨i⟩ := id
  simp only [get?, add, nextId, Array.getElem?_push, SchemaId.mk.injEq]
  split <;> simp_all

theorem get?_reserve (c : Catalog) (id : SchemaId) : c.reserve.get? id = c.get? id := by
  obtain ⟨i⟩ := id
  simp only [get?, reserve, Array.getElem?_push]
  split <;> simp_all

theorem get?_clear (c : Catalog) (id id' : SchemaId) :
    (c.clear id).get? id' = if id' = id then none else c.get? id' := by
  obtain ⟨i⟩ := id
  obtain ⟨j⟩ := id'
  simp only [get?, clear, Array.getElem?_setIfInBounds, SchemaId.mk.injEq]
  split
  · rename_i h; subst h; split <;> simp_all
  · rename_i h; simp [Ne.symm h]

theorem get?_fill (c : Catalog) {id : SchemaId} (h : id.index < c.slots.size) (s : Schema)
    (id' : SchemaId) : (c.fill id s).get? id' = if id' = id then some s else c.get? id' := by
  obtain ⟨i⟩ := id
  obtain ⟨j⟩ := id'
  simp only [get?, fill, Array.getElem?_setIfInBounds, SchemaId.mk.injEq]
  split
  · rename_i h'; subst h'; simp_all
  · rename_i h'; simp [Ne.symm h']

theorem size_clear_lt {c : Catalog} {id : SchemaId} (h : (c.get? id).isSome) :
    (c.clear id).size < c.size := by
  obtain ⟨i⟩ := id
  have hi : i < c.slots.size := by
    rcases Nat.lt_or_ge i c.slots.size with hi | hi
    · exact hi
    · simp [get?, Array.getElem?_eq_none hi] at h
  have hs : c.slots[i].isSome := by
    simpa [get?, hi] using h
  have hpos : 0 < c.slots.countP (·.isSome) := Array.countP_pos_iff.mpr ⟨_, Array.getElem_mem hi, hs⟩
  have hset : (c.slots.set i none hi).countP (·.isSome) = c.slots.countP (·.isSome) - 1 := by
    rw [Array.countP_set, if_pos hs]; simp
  simp only [size, clear, Array.setIfInBounds, dif_pos hi, hset]
  omega

theorem ne_nextId {c : Catalog} {id : SchemaId} (h : id.index < c.slots.size) : id ≠ c.nextId := by
  rintro rfl; exact Nat.lt_irrefl _ h

theorem size_slots_add (c : Catalog) (s : Schema) : (c.add s).slots.size = c.slots.size + 1 :=
  Array.size_push ..

@[simp] theorem size_slots_clear (c : Catalog) (id : SchemaId) :
    (c.clear id).slots.size = c.slots.size := by
  simp [clear]

/-! ### Withdrawing -/

/-- The first filled slot after `failed` that refers to an empty slot at or after `failed`. -/
def dangling? (c : Catalog) (failed : SchemaId) : Option SchemaId :=
  ((List.range c.slots.size).map SchemaId.mk).find? fun id =>
    failed.index < id.index && (c.get? id).any fun s =>
      s.references.any fun r => failed.index ≤ r.index && (c.get? r).isNone

theorem isSome_get?_of_dangling? {c : Catalog} {failed id : SchemaId}
    (h : c.dangling? failed = some id) : (c.get? id).isSome := by
  have := List.find?_some h
  simp only [Bool.and_eq_true, Option.any_eq_true] at this
  obtain ⟨-, s, hs, -⟩ := this
  simp [hs]

/-- Empties the slots after `failed` that reach an empty slot at or after `failed`, directly or
through one another, and lists them. Slots before `failed` are of schemas still being built. -/
def withdraw (c : Catalog) (failed : SchemaId) : List SchemaId × Catalog :=
  match _h : c.dangling? failed with
  | none => ([], c)
  | some id =>
    let (ids, c) := (c.clear id).withdraw failed
    (id :: ids, c)
termination_by c.size
decreasing_by exact size_clear_lt (isSome_get?_of_dangling? _h)

end Catalog

end ApiModel

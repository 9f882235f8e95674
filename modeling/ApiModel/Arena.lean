import ApiModel.Pointer

/-!
# Arenas

The nodes of a value are entered one after the other, each before those below it. The id of a node is
the number of nodes entered before it. An arena knows the id by the pointer of the node, and by the id
the pointer and the name that a reference to the node gives.
-/

namespace ApiModel

structure Arena where
  pointers : Array String := #[]
  names : Array (Option String) := #[]
  /-- Pointers with their ids, the last entered first. -/
  index : List (String × Nat) := []

namespace Arena

/-- The id of the node that was entered last under a pointer. -/
def id? (a : Arena) (pointer : String) : Option Nat := Assoc.get? pointer a.index

def enter (a : Arena) (pointer : String) : Arena where
  pointers := a.pointers.push pointer
  names := a.names.push (Pointer.declaredName? pointer)
  index := (pointer, a.pointers.size) :: a.index

mutual

/-- Enters a value, then the values below it. -/
def register (a : Arena) (pointer : String) : Json → Arena
  | .arr items => registerItems (a.enter pointer) pointer 0 items
  | .obj fields => registerFields (a.enter pointer) pointer fields
  | .null | .bool _ | .num _ | .str _ => a.enter pointer

def registerItems (a : Arena) (pointer : String) (i : Nat) : List Json → Arena
  | [] => a
  | v :: items =>
    registerItems (a.register (Pointer.join pointer (Nat.repr i)) v) pointer (i + 1) items

def registerFields (a : Arena) (pointer : String) : List (String × Json) → Arena
  | [] => a
  | (k, v) :: fields => registerFields (a.register (Pointer.join pointer k) v) pointer fields

end

theorem registerItems_eq (a : Arena) (pointer : String) (i : Nat) (items : List Json) :
    a.registerItems pointer i items =
      (items.zipIdx i).foldl
        (fun a (v, j) => a.register (Pointer.join pointer (Nat.repr j)) v) a := by
  induction items generalizing a i with
  | nil => rfl
  | cons v items ih => rw [registerItems, ih, List.zipIdx_cons, List.foldl_cons]

theorem registerFields_eq (a : Arena) (pointer : String) (fields : List (String × Json)) :
    a.registerFields pointer fields =
      fields.foldl (fun a (k, v) => a.register (Pointer.join pointer k) v) a := by
  induction fields generalizing a with
  | nil => rfl
  | cons kv fields ih => rw [registerFields, ih, List.foldl_cons]

theorem register_eq (a : Arena) (pointer : String) (v : Json) :
    a.register pointer v =
      v.children.foldl (fun a (k, w) => a.register (Pointer.join pointer k) w)
        (a.enter pointer) := by
  cases v <;> simp [register, Json.children, registerItems_eq, registerFields_eq, List.foldl_map]

end Arena

end ApiModel

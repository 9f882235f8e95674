import ApiModel.Arena
import ApiModel.Reference
import ApiModel.Rejection

/-!
# Documents

A document is a JSON value whose nodes are known by their paths: `fragments` lists every node before
the nodes below it, and the arena gives them their ids in this order. A node that holds a `$ref` stands
for another one; `resolve` follows such references to the node at their end. The search ends because a
chain that goes on without an end comes back to a node it has seen, and there are only so many nodes.
-/

namespace ApiModel

/-- A node of a document. -/
structure Fragment where
  path : Path
  value : Json

namespace Fragment

def pointer (f : Fragment) : String := Pointer.ofPath f.path

/-- The path of what is declared at a key. -/
def slot (f : Fragment) (key : String) : Path := f.path ++ [key]

end Fragment

/-- A node at the end of references, with the name that the last of them gives to it. -/
structure Target extends Fragment where
  name : Option String

namespace Json

def reference? (v : Json) : Option String := (v.get? "$ref").bind (·.str?)

mutual

/-- A value at a path and all values below it, each before those below. -/
def fragmentsAt (path : Path) : Json → List Fragment
  | .arr items => ⟨path, .arr items⟩ :: fragmentsOfItems path 0 items
  | .obj fields => ⟨path, .obj fields⟩ :: fragmentsOfFields path fields
  | .null => [⟨path, .null⟩]
  | .bool b => [⟨path, .bool b⟩]
  | .num n => [⟨path, .num n⟩]
  | .str s => [⟨path, .str s⟩]

def fragmentsOfItems (path : Path) (i : Nat) : List Json → List Fragment
  | [] => []
  | v :: items => fragmentsAt (path ++ [Nat.repr i]) v ++ fragmentsOfItems path (i + 1) items

def fragmentsOfFields (path : Path) : List (String × Json) → List Fragment
  | [] => []
  | (k, v) :: fields => fragmentsAt (path ++ [k]) v ++ fragmentsOfFields path fields

end

theorem fragmentsOfItems_eq (path : Path) (i : Nat) (items : List Json) :
    fragmentsOfItems path i items =
      (items.zipIdx i).flatMap fun (v, j) => fragmentsAt (path ++ [Nat.repr j]) v := by
  induction items generalizing i with
  | nil => simp [fragmentsOfItems]
  | cons v items ih => simp [fragmentsOfItems, ih]

theorem fragmentsOfFields_eq (path : Path) (fields : List (String × Json)) :
    fragmentsOfFields path fields =
      fields.flatMap fun (k, v) => fragmentsAt (path ++ [k]) v := by
  induction fields with
  | nil => simp [fragmentsOfFields]
  | cons kv fields ih => obtain ⟨k, v⟩ := kv; simp [fragmentsOfFields, ih]

theorem fragmentsAt_eq (path : Path) (v : Json) :
    v.fragmentsAt path =
      ⟨path, v⟩ :: v.children.flatMap fun (k, w) => fragmentsAt (path ++ [k]) w := by
  cases v <;> simp [fragmentsAt, children, fragmentsOfItems_eq, fragmentsOfFields_eq,
    List.flatMap_map]

/-- Whatever a path leads to is listed. -/
theorem mem_fragmentsAt {v w : Json} {start path : Path} (h : v.at? path = some w) :
    (⟨start ++ path, w⟩ : Fragment) ∈ v.fragmentsAt start := by
  induction path generalizing v start with
  | nil =>
    simp only [at?_nil, Option.some.injEq] at h
    rw [fragmentsAt_eq, h]; simp
  | cons k path ih =>
    rw [at?_cons, Option.bind_eq_some_iff] at h
    obtain ⟨u, hu, h⟩ := h
    rw [fragmentsAt_eq]
    refine List.mem_cons_of_mem _ (List.mem_flatMap.mpr ⟨(k, u), Assoc.mem_of_get? hu, ?_⟩)
    simpa using @ih u (start ++ [k]) h

end Json

structure Document where
  root : Json

namespace Document

/-- All nodes, each before those below it. -/
def fragments (doc : Document) : List Fragment := doc.root.fragmentsAt []

/-- The URI that the document declares for itself. -/
def selfUri (doc : Document) : Option String := (doc.root.get? "$self").bind (·.str?)

def at? (doc : Document) (path : Path) : Option Json := doc.root.at? path

theorem at?_append_singleton (doc : Document) (path : Path) (key : String) :
    doc.at? (path ++ [key]) = (doc.at? path).bind (·.child? key) := by
  simp [at?, Json.at?_append, Json.at?_cons]

/-- All nodes, entered from the root on. -/
def arena (doc : Document) : Arena := Arena.register {} "#" doc.root

/-- The id of the node at a path. -/
def position? (doc : Document) (path : Path) : Option Nat := doc.arena.id? (Pointer.ofPath path)

/-! ### Following references -/

/-- How many nodes are not among the paths seen. -/
def unseen (doc : Document) (seen : List Path) : Nat :=
  (doc.fragments.filter fun f => f.path ∉ seen).length

theorem unseen_cons_lt {doc : Document} {seen : List Path} {path : Path} {v : Json}
    (h : doc.at? path = some v) (hs : path ∉ seen) : doc.unseen (path :: seen) < doc.unseen seen := by
  have hm : (⟨path, v⟩ : Fragment) ∈ doc.fragments := Json.mem_fragmentsAt h
  have hsub : (doc.fragments.filter fun f => f.path ∉ path :: seen) =
      (doc.fragments.filter fun f => f.path ∉ seen).filter fun f => f.path ≠ path := by
    rw [List.filter_filter]
    apply List.filter_congr
    intro f _
    simp [not_or]
  unfold unseen
  rw [hsub]
  refine Nat.lt_of_le_of_ne (List.length_filter_le _ _) fun he => ?_
  have := List.length_filter_eq_length_iff.mp he ⟨path, v⟩
    (List.mem_filter.mpr ⟨hm, by simpa using hs⟩)
  simp at this

/-- The node at the end of the chain that starts with a reference. Fails where the chain leaves the
document, ends nowhere, or comes back to a node in `seen`. -/
def follow (doc : Document) (seen : List Path) (reference : String) : Except Rejection Fragment :=
  match Reference.local? reference doc.selfUri with
  | none => .error (.unresolvedReference reference)
  | some pointer =>
    match _h : doc.at? (Pointer.segments pointer) with
    | none => .error (.unresolvedReference (Pointer.canonical pointer))
    | some value =>
      match value.reference? with
      | none => .ok ⟨Pointer.segments pointer, value⟩
      | some next =>
        if _hs : Pointer.segments pointer ∈ seen then .error (.unresolvedReference next)
        else doc.follow (Pointer.segments pointer :: seen) next
termination_by doc.unseen seen
decreasing_by exact unseen_cons_lt _h _hs

/-- What a value at the end of no reference, or of the chain from it, is. -/
def target (doc : Document) (seen : List Path) (path : Path) (value : Json) :
    Except Rejection Target :=
  match value.reference? with
  | none => .ok ⟨⟨path, value⟩, none⟩
  | some reference =>
    (doc.follow seen reference).map fun f => ⟨f, Pointer.nameOfPath f.path⟩

/-- The node that a slot stands for; nothing if nothing is declared there. -/
def resolve (doc : Document) (path : Path) : Except Rejection (Option Target) :=
  match doc.at? path with
  | none => .ok none
  | some value => (doc.target [path] path value).map some

/-! ### Children by path -/

/-- The keys at a path that are not extensions, each with its own path. -/
def entries (doc : Document) (path : Path) : List (String × Path) :=
  ((doc.at? path).map (·.entryKeys)).getD [] |>.map fun k => (k, path ++ [k])

/-- The paths of the items at a path. -/
def items (doc : Document) (path : Path) : List Path :=
  (List.range (((doc.at? path).map (·.itemCount)).getD 0)).map fun i => path ++ [Nat.repr i]

variable {doc : Document} {path : Path}

/-- The entries of an object are its keys that are not extensions, in their order. -/
theorem entries_of_obj {fields : List (String × Json)} (h : doc.at? path = some (.obj fields)) :
    doc.entries path =
      ((fields.map (·.1)).filter fun k => !Json.isExtensionKey k).map fun k => (k, path ++ [k]) := by
  rw [entries, h, Option.map_some, Option.getD_some, Json.entryKeys_obj]

/-- The slot of an entry has what stands at its key. -/
theorem exists_of_mem_entries {e : String × Path} (h : e ∈ doc.entries path) :
    ∃ v, (doc.at? path).bind (·.get? e.1) = some v ∧ doc.at? e.2 = some v := by
  obtain ⟨key, hkey, rfl⟩ := List.mem_map.mp h
  cases hv : doc.at? path with
  | none => simp [hv] at hkey
  | some v =>
    cases v with
    | obj fields =>
      simp only [hv, Option.map_some, Option.getD_some, Json.entryKeys_obj] at hkey
      obtain ⟨w, hw⟩ := Option.isSome_iff_exists.mp
        (Json.isSome_child? (v := .obj fields) (List.mem_filter.mp hkey).1)
      exact ⟨w, hw, by rw [at?_append_singleton, hv, Option.bind_some, hw]⟩
    | _ => simp [hv, Json.entryKeys, Json.obj?] at hkey

theorem isSome_at?_of_mem_entries {e : String × Path} (h : e ∈ doc.entries path) :
    (doc.at? e.2).isSome := by
  obtain ⟨v, -, hv⟩ := exists_of_mem_entries h
  rw [hv]
  rfl

/-- The slots of an array have its items, in their order. -/
theorem map_at?_items (doc : Document) (path : Path) :
    (doc.items path).map doc.at? = (((doc.at? path).bind (·.arr?)).getD []).map some := by
  have hslot : ∀ i, doc.at? (path ++ [Nat.repr i]) = (doc.at? path).bind (·.child? (Nat.repr i)) :=
    fun i => doc.at?_append_singleton path _
  rw [items, List.map_map]
  cases hv : doc.at? path with
  | none => rfl
  | some v =>
    cases v with
    | arr vs =>
      refine List.ext_getElem (by simp [Json.itemCount, Json.arr?]) fun i hi hi' => ?_
      simp only [List.getElem_map, List.getElem_range, Function.comp_apply, hslot, hv, Option.bind_some,
        Json.child?_arr]
      simp [Json.arr?] at hi' ⊢
    | _ => rfl

theorem isSome_at?_of_mem_items {slot : Path} (h : slot ∈ doc.items path) : (doc.at? slot).isSome := by
  have hmem := List.mem_map_of_mem (f := doc.at?) h
  rw [map_at?_items] at hmem
  obtain ⟨v, -, hv⟩ := List.mem_map.mp hmem
  rw [← hv]
  rfl

/-! ### Pointers as text -/

/-- The value at a pointer without percent escapes. -/
def get? (doc : Document) (pointer : String) : Option Json :=
  (Pointer.literal? pointer).bind doc.at?

theorem get?_ofPath (doc : Document) (path : Path) : doc.get? (Pointer.ofPath path) = doc.at? path := by
  rw [get?, Pointer.literal?_ofPath, Option.bind_some]

/-- The node that the slot at a pointer stands for. A pointer that is not the written form of its
path has no node of its own, but a reference at it is followed. -/
def resolvePointer (doc : Document) (pointer : String) : Except Rejection (Option Target) :=
  match Pointer.literal? pointer with
  | none => .ok none
  | some path =>
    if Pointer.ofPath path = pointer then doc.resolve path
    else
      match doc.at? path with
      | none => .ok none
      | some value =>
        if value.reference?.isNone then .error (.unresolvedReference pointer)
        else (doc.target [] path value).map some

theorem resolvePointer_ofPath (doc : Document) (path : Path) :
    doc.resolvePointer (Pointer.ofPath path) = doc.resolve path := by
  rw [resolvePointer, Pointer.literal?_ofPath]
  exact if_pos rfl

/-- The keys at a pointer that are not extensions, each with its own pointer. -/
def entryPointers (doc : Document) (pointer : String) : List (String × String) :=
  ((doc.get? pointer).map (·.entryKeys)).getD [] |>.map fun k => (k, Pointer.join pointer k)

theorem entryPointers_ofPath (doc : Document) (path : Path) :
    doc.entryPointers (Pointer.ofPath path) =
      (doc.entries path).map fun e => (e.1, Pointer.ofPath e.2) := by
  simp [entryPointers, entries, get?_ofPath, Pointer.ofPath_append_singleton]

/-- The pointers of the items at a pointer. -/
def itemPointers (doc : Document) (pointer : String) : List String :=
  (List.range (((doc.get? pointer).map (·.itemCount)).getD 0)).map fun i =>
    Pointer.join pointer (Nat.repr i)

theorem itemPointers_ofPath (doc : Document) (path : Path) :
    doc.itemPointers (Pointer.ofPath path) = (doc.items path).map Pointer.ofPath := by
  simp [itemPointers, items, get?_ofPath, Pointer.ofPath_append_singleton]

end Document

end ApiModel

import ApiModel.Proofs.Nodes
import Mathlib.Data.List.Basic
import Mathlib.Data.List.Nodup

/-!
# The nodes of a document and their ids

`Json.nodes` lists a value and all values below it, each before those below it. Provided that no object
has a key twice, the paths of the nodes are distinct, so the arena enters each node once, under a
pointer of its own: `arena_enumerates_nodes` says that ids, pointers and nodes are in bijection, by the
index one way and by following the text of a pointer from the root the other way.
-/

namespace ApiModel

namespace Json

variable {v : Json}

mutual

/-- A value and all values below it, depth first. -/
def nodes : Json → List Json
  | .arr items => .arr items :: nodesOfItems items
  | .obj fields => .obj fields :: nodesOfFields fields
  | .null => [.null]
  | .bool b => [.bool b]
  | .num n => [.num n]
  | .str s => [.str s]

def nodesOfItems : List Json → List Json
  | [] => []
  | v :: items => nodes v ++ nodesOfItems items

def nodesOfFields : List (String × Json) → List Json
  | [] => []
  | (_, v) :: fields => nodes v ++ nodesOfFields fields

end

theorem nodesOfItems_eq (items : List Json) (i : Nat) :
    nodesOfItems items = (items.zipIdx i).flatMap fun (v, _) => v.nodes := by
  induction items generalizing i with
  | nil => rfl
  | cons v items ih => simp [nodesOfItems, ← ih (i + 1)]

theorem nodesOfFields_eq (fields : List (String × Json)) :
    nodesOfFields fields = fields.flatMap fun (_, v) => v.nodes := by
  induction fields with
  | nil => rfl
  | cons kv fields ih => simp [nodesOfFields, ih]

theorem nodes_eq (v : Json) : v.nodes = v :: v.children.flatMap fun (_, w) => w.nodes := by
  cases v <;> simp [nodes, children, nodesOfItems_eq _ 0, nodesOfFields_eq, List.flatMap_map]

theorem sizeOf_lt_of_mem_children {c : String × Json} (h : c ∈ v.children) :
    sizeOf c.2 < sizeOf v := by
  cases v with
  | arr items =>
    obtain ⟨⟨w, i⟩, hm, rfl⟩ := List.mem_map.mp h
    have hlt := List.sizeOf_lt_of_mem (List.fst_mem_of_mem_zipIdx hm)
    simp only [arr.sizeOf_spec] at hlt ⊢
    omega
  | obj fields =>
    obtain ⟨k, w⟩ := c
    have hlt := List.sizeOf_lt_of_mem (show (k, w) ∈ fields from h)
    simp only [Prod.mk.sizeOf_spec, obj.sizeOf_spec] at hlt ⊢
    omega
  | _ => cases h

/-- Induction over a value: it holds of a value if it holds of all its children. -/
theorem children_induction {P : Json → Prop} (step : ∀ v, (∀ c ∈ v.children, P c.2) → P v)
    (v : Json) : P v := by
  induction hn : sizeOf v using Nat.strongRecOn generalizing v with
  | ind n ih => exact step v fun c hc => ih _ (hn ▸ sizeOf_lt_of_mem_children hc) _ rfl

/-- No object has a key twice. -/
def KeysDistinct (v : Json) : Prop := ∀ w ∈ v.nodes, ((w.obj?.getD []).map (·.1)).Nodup

instance : Decidable v.KeysDistinct :=
  inferInstanceAs (Decidable (∀ w ∈ v.nodes, ((w.obj?.getD []).map (·.1)).Nodup))

namespace KeysDistinct

theorem child (h : v.KeysDistinct) {c : String × Json} (hc : c ∈ v.children) : c.2.KeysDistinct := by
  intro w hw
  refine h w ?_
  rw [nodes_eq]
  exact List.mem_cons_of_mem _ (List.mem_flatMap.mpr ⟨c, hc, hw⟩)

theorem nodup_children (h : v.KeysDistinct) : (v.children.map (·.1)).Nodup := by
  cases v with
  | obj fields => exact h (.obj fields) (by rw [nodes_eq]; exact List.mem_cons_self ..)
  | arr items =>
    have hkeys : (children (.arr items)).map (·.1) = (items.zipIdx.map (·.2)).map Nat.repr := by
      rw [children, List.map_map, List.map_map]
      rfl
    rw [hkeys, List.zipIdx_map_snd]
    exact List.Nodup.map (fun _ _ => repr_injective) List.nodup_range'
  | _ => exact List.nodup_nil

end KeysDistinct

theorem map_value_fragmentsAt (path : Path) (v : Json) :
    (v.fragmentsAt path).map (·.value) = v.nodes := by
  induction v using children_induction generalizing path with
  | step v ih =>
    rw [fragmentsAt_eq, nodes_eq, List.map_cons, List.map_flatMap]
    exact congrArg _ (List.flatMap_congr fun c hc => ih c hc _)

theorem prefix_of_mem_fragmentsAt {path : Path} {f : Fragment} (h : f ∈ v.fragmentsAt path) :
    path <+: f.path := by
  induction v using children_induction generalizing path with
  | step v ih =>
    rw [fragmentsAt_eq] at h
    rcases List.mem_cons.mp h with rfl | h
    · exact List.prefix_rfl
    · obtain ⟨c, hc, hf⟩ := List.mem_flatMap.mp h
      exact (List.prefix_append path [c.1]).trans (ih c hc hf)

theorem eq_of_extended {path q : Path} {key key' : String} (h : path ++ [key] <+: q)
    (h' : path ++ [key'] <+: q) : key = key' := by
  obtain ⟨rest, rfl⟩ := h
  rw [List.append_assoc, List.prefix_append_right_inj] at h'
  exact (List.cons_prefix_cons.mp h').1.symm

theorem nodup_paths_fragmentsAt (h : v.KeysDistinct) (path : Path) :
    ((v.fragmentsAt path).map (·.path)).Nodup := by
  induction v using children_induction generalizing path with
  | step v ih =>
    rw [fragmentsAt_eq, List.map_cons, List.map_flatMap, List.nodup_cons, List.nodup_flatMap]
    refine ⟨fun hm => ?_, fun c hc => ih c hc (h.child hc) _, ?_⟩
    · obtain ⟨c, -, hf⟩ := List.mem_flatMap.mp hm
      obtain ⟨f, hf, he⟩ := List.mem_map.mp hf
      have hlen := (prefix_of_mem_fragmentsAt hf).length_le
      rw [he, List.length_append, List.length_singleton] at hlen
      exact Nat.lt_irrefl _ hlen
    · refine (List.pairwise_map.mp h.nodup_children).imp fun {c c'} hne => ?_
      rintro p hp hp'
      obtain ⟨f, hf, rfl⟩ := List.mem_map.mp hp
      obtain ⟨g, hg, he⟩ := List.mem_map.mp hp'
      exact hne (eq_of_extended (prefix_of_mem_fragmentsAt hf) (he ▸ prefix_of_mem_fragmentsAt hg))

/-- Where no key is taken twice, whatever is listed is what its path leads to. -/
theorem at?_of_mem_fragmentsAt (h : v.KeysDistinct) {start : Path} {f : Fragment}
    (hf : f ∈ v.fragmentsAt start) : ∃ path, f.path = start ++ path ∧ v.at? path = some f.value := by
  induction v using children_induction generalizing start with
  | step v ih =>
    rw [fragmentsAt_eq] at hf
    rcases List.mem_cons.mp hf with rfl | hf
    · exact ⟨[], (List.append_nil _).symm, rfl⟩
    · obtain ⟨⟨k, w⟩, hc, hf⟩ := List.mem_flatMap.mp hf
      obtain ⟨path, hpath, hat⟩ := ih _ hc (h.child hc) hf
      refine ⟨k :: path, by rw [hpath]; simp, ?_⟩
      rw [at?_cons, child?, Assoc.get?_of_mem h.nodup_children hc]
      exact hat

end Json

namespace Arena

theorem register_ofPath (a : Arena) (path : Path) (v : Json) :
    a.register (Pointer.ofPath path) v =
      ((v.fragmentsAt path).map (·.pointer)).foldl enter a := by
  induction v using Json.children_induction generalizing a path with
  | step v ih =>
    rw [register_eq, Json.fragmentsAt_eq, List.map_cons, List.foldl_cons, List.map_flatMap,
      List.foldl_flatMap]
    refine List.foldl_ext _ _ _ fun a c hc => ?_
    have hc := ih c hc a (path ++ [c.1])
    rwa [Pointer.ofPath_append_singleton] at hc

theorem pointers_foldl_enter (a : Arena) (ps : List String) :
    (ps.foldl enter a).pointers.toList = a.pointers.toList ++ ps := by
  induction ps generalizing a with
  | nil => simp
  | cons p ps ih => simp [ih, enter]

theorem names_foldl_enter (a : Arena) (ps : List String) :
    (ps.foldl enter a).names.toList = a.names.toList ++ ps.map Pointer.declaredName? := by
  induction ps generalizing a with
  | nil => simp
  | cons p ps ih => simp [ih, enter]

theorem index_foldl_enter (a : Arena) (ps : List String) :
    (ps.foldl enter a).index = (ps.zipIdx a.pointers.size).reverse ++ a.index := by
  induction ps generalizing a with
  | nil => rfl
  | cons p ps ih => simp [ih, enter]

end Arena

namespace Document

variable {doc : Document}

theorem arena_eq (doc : Document) :
    doc.arena = (doc.fragments.map (·.pointer)).foldl Arena.enter {} :=
  Arena.register_ofPath {} [] doc.root

@[simp] theorem toList_pointers_arena (doc : Document) :
    doc.arena.pointers.toList = doc.fragments.map (·.pointer) := by
  rw [arena_eq, Arena.pointers_foldl_enter]; rfl

@[simp] theorem toList_names_arena (doc : Document) :
    doc.arena.names.toList = (doc.fragments.map (·.pointer)).map Pointer.declaredName? := by
  rw [arena_eq, Arena.names_foldl_enter]; rfl

theorem index_arena (doc : Document) :
    doc.arena.index = (doc.fragments.map (·.pointer)).zipIdx.reverse := by
  rw [arena_eq, Arena.index_foldl_enter, List.append_nil]; rfl

/-! ### Ids, pointers and nodes -/

theorem map_pointer_fragments (doc : Document) :
    doc.fragments.map (·.pointer) = (doc.fragments.map (·.path)).map Pointer.ofPath :=
  (List.map_map ..).symm

theorem nodup_pointers (h : doc.root.KeysDistinct) : (doc.fragments.map (·.pointer)).Nodup := by
  rw [map_pointer_fragments]
  exact List.Nodup.map (fun _ _ => Pointer.ofPath_injective) (Json.nodup_paths_fragmentsAt h [])

theorem mem_fragments_iff (h : doc.root.KeysDistinct) {f : Fragment} :
    f ∈ doc.fragments ↔ doc.Holds f := by
  refine ⟨fun hf => ?_, Json.mem_fragmentsAt⟩
  obtain ⟨path, hpath, hat⟩ := Json.at?_of_mem_fragmentsAt h hf
  rw [Holds, hpath]
  exact hat

/-- The pointer of an id is that of the fragment at the same place. -/
theorem pointers_eq_some_iff {i : Nat} {pointer : String} :
    doc.arena.pointers[i]? = some pointer ↔ ∃ f, doc.fragments[i]? = some f ∧ f.pointer = pointer := by
  rw [← Array.getElem?_toList, toList_pointers_arena, List.getElem?_map, Option.map_eq_some_iff]

/-- Where no key is taken twice, the index undoes the numbering. -/
theorem id?_eq_some_iff (h : doc.root.KeysDistinct) {i : Nat} {pointer : String} :
    doc.arena.id? pointer = some i ↔ doc.arena.pointers[i]? = some pointer := by
  have hmem : (pointer, i) ∈ doc.arena.index ↔ doc.arena.pointers[i]? = some pointer := by
    rw [index_arena, List.mem_reverse, List.mem_zipIdx_iff_getElem?, ← Array.getElem?_toList,
      toList_pointers_arena]
  have hkeys : (doc.arena.index.map (·.1)).Nodup := by
    rw [index_arena, List.map_reverse, List.zipIdx_map_fst, List.nodup_reverse]
    exact nodup_pointers h
  rw [← hmem]
  exact ⟨Assoc.mem_of_get?, Assoc.get?_of_mem hkeys⟩

theorem nodes_root (doc : Document) : doc.root.nodes = doc.fragments.map (·.value) :=
  (Json.map_value_fragmentsAt [] doc.root).symm

/-- A node has an id, by which its pointer, its name and its value are found again. -/
theorem exists_id_of_holds (h : doc.root.KeysDistinct) {f : Fragment} (hf : doc.Holds f) :
    ∃ i, doc.arena.id? f.pointer = some i ∧ doc.arena.pointers[i]? = some f.pointer ∧
      doc.arena.names[i]? = some (Pointer.declaredName? f.pointer) ∧
      doc.root.nodes[i]? = some f.value := by
  obtain ⟨i, hi⟩ := List.mem_iff_getElem?.mp ((mem_fragments_iff h).mpr hf)
  have hp : doc.arena.pointers[i]? = some f.pointer := pointers_eq_some_iff.mpr ⟨f, hi, rfl⟩
  have hn : doc.arena.names[i]? = some (Pointer.declaredName? f.pointer) := by
    rw [← Array.getElem?_toList, toList_names_arena, List.getElem?_map, List.getElem?_map, hi]
    rfl
  refine ⟨i, (id?_eq_some_iff h).mpr hp, hp, hn, ?_⟩
  rw [nodes_root, List.getElem?_map, hi]
  rfl

/-- The pointers of the arena are those of the nodes. -/
theorem mem_pointers_iff (h : doc.root.KeysDistinct) {pointer : String} :
    pointer ∈ doc.arena.pointers ↔ ∃ f, doc.Holds f ∧ f.pointer = pointer := by
  rw [← Array.mem_toList_iff, toList_pointers_arena, List.mem_map]
  exact exists_congr fun f => and_congr_left fun _ => mem_fragments_iff h

/-- Ids, pointers and nodes of a document are in bijection. -/
structure Enumerated (doc : Document) : Prop where
  order : doc.arena.pointers.toList = doc.fragments.map (·.pointer)
  size : doc.arena.pointers.size = doc.root.nodes.length
  distinct : doc.arena.pointers.toList.Nodup
  complete : ∀ pointer : String, pointer ∈ doc.arena.pointers ↔
    ∃ path, (doc.at? path).isSome ∧ Pointer.ofPath path = pointer
  index : ∀ (i : Nat) (pointer : String), doc.arena.pointers[i]? = some pointer →
    doc.arena.id? pointer = some i
  node : ∀ (i : Nat) (pointer : String), doc.arena.pointers[i]? = some pointer →
    doc.get? pointer = doc.root.nodes[i]?

/-- The arena enters each node once, under a pointer of its own that leads to the node: the nodes are
those of the document, depth first. -/
theorem arena_enumerates_nodes (doc : Document) (h : doc.root.KeysDistinct) : doc.Enumerated where
  order := toList_pointers_arena doc
  size := by
    rw [← Array.length_toList, toList_pointers_arena, nodes_root, List.length_map, List.length_map]
  distinct := by
    rw [toList_pointers_arena]
    exact nodup_pointers h
  complete pointer := by
    rw [mem_pointers_iff h]
    constructor
    · rintro ⟨f, hf, rfl⟩
      exact ⟨f.path, Option.isSome_iff_exists.mpr ⟨_, hf⟩, rfl⟩
    · rintro ⟨path, hpath, rfl⟩
      obtain ⟨v, hv⟩ := Option.isSome_iff_exists.mp hpath
      exact ⟨⟨path, v⟩, hv, rfl⟩
  index _ _ hp := (id?_eq_some_iff h).mpr hp
  node i pointer hp := by
    obtain ⟨f, hf, rfl⟩ := pointers_eq_some_iff.mp hp
    have hholds : doc.Holds f := (mem_fragments_iff h).mp (List.mem_of_getElem? hf)
    rw [Fragment.pointer, get?_ofPath, nodes_root, List.getElem?_map, hf]
    exact hholds

/-- Keys that are empty or made of the characters that pointers are written with. -/
def withOddKeys : Document where
  root := .obj [
    ("", .obj [("", .str "x"), ("/", .null)]),
    ("/", .arr [.obj [("#", .bool true)], .arr [], .str "%41"]),
    ("~1", .obj [("~0", .null), ("%2F", .null)]),
    ("#", .arr [.null])]

theorem arena_enumerates_nodes_withOddKeys :
    withOddKeys.root.KeysDistinct ∧ withOddKeys.Enumerated ∧
      withOddKeys.arena.pointers.toList = ["#", "#/", "#//", "#//~1", "#/~1", "#/~1/0", "#/~1/0/#",
        "#/~1/1", "#/~1/2", "#/~01", "#/~01/~00", "#/~01/%2F", "#/#", "#/#/0"] := by
  have h : withOddKeys.root.KeysDistinct := by decide +kernel
  exact ⟨h, arena_enumerates_nodes withOddKeys h, by decide +kernel⟩

end Document

end ApiModel

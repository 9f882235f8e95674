import ApiModel.Modeling.Paths
import Mathlib.Data.List.Basic

/-!
# The operations that a walk comes to

`endpoints` lists the operations of a document in the order in which they are reached, said without
the memory of what was seen: paths that lead to one path item count once, and so do all the ways
that lead to one operation (`firsts`). The visits of a document come to these (`endpoints_visits`).

In the same way `parameterKeys` lists the names and places of the parameters of an operation, and
merging keeps one parameter for each (`keys_mergeParameters`).
-/

namespace ApiModel

/-- An operation of a document and the way that leads to it. -/
structure Endpoint where
  method : Method
  key : String
  item : Fragment
  operation : Fragment

namespace Endpoint

/-- The path that a model gives to the operation. -/
def path (e : Endpoint) : String := Identity.effectivePath e.item.value e.operation.value e.key

def identity (separator : Char) (e : Endpoint) : Identity :=
  (Identity.ofOperation e.method e.key e.operation.value e.operation.pointer separator).1

end Endpoint

namespace Document

variable (doc : Document)

/-- The node that a slot stands for, if there is one. -/
def node? (slot : Path) : Option Fragment :=
  match doc.resolve slot with
  | .ok (some target) => some target.toFragment
  | _ => none

/-- The path items that entries lead to, each with the first key that leads to it. -/
def pathItems (entries : List (String × Path)) : List (String × Fragment) :=
  firsts (·.2.path) (entries.filterMap fun e => (doc.node? e.2).map (e.1, ·))

def itemEndpoints (key : String) (item : Fragment) : List Endpoint :=
  Method.all.filterMap fun method => (doc.node? (item.slot method.text)).map (⟨method, key, item, ·⟩)

/-- The operations, each with the first way that leads to it. -/
def endpoints : List Endpoint :=
  firsts (·.operation.path)
    ((doc.pathItems (doc.entries ["paths"])).flatMap fun i => doc.itemEndpoints i.1 i.2)

end Document

def Visit.endpoint? : Visit → Option Endpoint
  | .operation method key item op => some ⟨method, key, item, op⟩
  | .unresolved _ _ => none

namespace Document

variable {doc : Document} {slot : Path}

theorem node?_of_error {r : Rejection} (h : doc.resolve slot = .error r) : doc.node? slot = none := by
  simp [node?, h]

theorem node?_of_none (h : doc.resolve slot = .ok none) : doc.node? slot = none := by
  simp [node?, h]

theorem node?_of_some {t : Target} (h : doc.resolve slot = .ok (some t)) :
    doc.node? slot = some t.toFragment := by
  simp [node?, h]

theorem endpoints_itemVisits (key : String) (item : Fragment) :
    (doc.itemVisits key item).filterMap Visit.endpoint? = doc.itemEndpoints key item := by
  unfold itemVisits itemEndpoints
  rw [List.filterMap_filterMap]
  refine List.filterMap_congr fun method _ => ?_
  cases hres : doc.resolve (item.slot method.text) with
  | error r => simp [node?_of_error hres, Visit.endpoint?]
  | ok target =>
    cases target with
    | none => simp [node?_of_none hres]
    | some op => simp [node?_of_some hres, Visit.endpoint?]

theorem pathItems_cons_of_none {key : String} {entries : List (String × Path)}
    (hn : doc.node? slot = none) : doc.pathItems ((key, slot) :: entries) = doc.pathItems entries := by
  simp [pathItems, hn]

theorem fresh_pathItems_cons {key : String} {entries : List (String × Path)} {item : Fragment}
    (seen : List Path) (hn : doc.node? slot = some item) :
    fresh (·.2.path) seen (doc.pathItems ((key, slot) :: entries)) =
      if item.path ∈ seen then fresh (·.2.path) seen (doc.pathItems entries)
      else (key, item) :: fresh (·.2.path) (item.path :: seen) (doc.pathItems entries) := by
  have hcons : doc.pathItems ((key, slot) :: entries) = firsts (·.2.path)
      ((key, item) :: entries.filterMap fun e => (doc.node? e.2).map (e.1, ·)) := by
    simp [pathItems, hn]
  rw [hcons, fresh_firsts_cons]
  by_cases h : item.path ∈ seen
  · rw [if_pos h, if_pos h]; rfl
  · rw [if_neg h, if_neg h]; rfl

theorem pathVisits_cons (key : String) (slot : Path) (entries : List (String × Path))
    (seen : List Path) :
    doc.pathVisits ((key, slot) :: entries) seen =
      match doc.resolve slot with
      | .error r => .unresolved r (Pointer.ofPath slot) :: doc.pathVisits entries seen
      | .ok none => doc.pathVisits entries seen
      | .ok (some item) =>
        if item.path ∈ seen then doc.pathVisits entries seen
        else doc.itemVisits key item.toFragment ++ doc.pathVisits entries (item.path :: seen) := rfl

theorem endpoints_pathVisits (entries : List (String × Path)) (seen : List Path) :
    (doc.pathVisits entries seen).filterMap Visit.endpoint? =
      (fresh (·.2.path) seen (doc.pathItems entries)).flatMap fun i => doc.itemEndpoints i.1 i.2 := by
  induction entries generalizing seen with
  | nil => rfl
  | cons entry entries ih =>
    obtain ⟨key, slot⟩ := entry
    rw [pathVisits_cons]
    cases hres : doc.resolve slot with
    | error r => rw [pathItems_cons_of_none (node?_of_error hres), ← ih seen]; rfl
    | ok target =>
      cases target with
      | none => rw [pathItems_cons_of_none (node?_of_none hres), ← ih seen]
      | some item =>
        rw [fresh_pathItems_cons seen (node?_of_some hres)]
        dsimp only
        split
        · exact ih seen
        · rw [List.filterMap_append, endpoints_itemVisits, ih, List.flatMap_cons]

/-- The visits of a document come to its endpoints. -/
theorem endpoints_visits (doc : Document) :
    firsts (·.operation.path) (doc.visits.filterMap Visit.endpoint?) = doc.endpoints := by
  rw [visits, endpoints_pathVisits, fresh_nil]
  rfl

end Document

/-! ### Parameters -/

namespace Document

/-- The slots for parameters of a path item and an operation, those of the path item first. -/
def parameterSlots (doc : Document) (item operation : Fragment) : List Path :=
  doc.items (item.slot "parameters") ++ doc.items (operation.slot "parameters")

def declaredParameters (doc : Document) (item operation : Fragment) : List Fragment :=
  (doc.parameterSlots item operation).filterMap doc.node?

/-- The names and places of the parameters of a path item and an operation. -/
def parameterKeys (doc : Document) (item operation : Fragment) : List (String × String) :=
  firsts id ((doc.declaredParameters item operation).map (·.value.parameterKey))

end Document

/-- Whether the place of a parameter is the request body. -/
def isBodyKey (key : String × String) : Bool := key.2 = "body" || key.2 = "formData"

theorem Json.isBodyPart_eq (v : Json) : v.isBodyPart = isBodyKey v.parameterKey := by
  unfold Json.isBodyPart isBodyKey Json.parameterKey
  cases v.text? "in" <;> simp

/-- Merging keeps one parameter for each key, in the order of the keys. -/
theorem Classify.keys_mergeParameters (fs : List Fragment) :
    (mergeParameters fs).map (·.value.parameterKey) = firsts id (fs.map (·.value.parameterKey)) := by
  have hkey : ∀ p ∈ Assoc.ofList (fs.map fun f => (f.value.parameterKey, f)),
      p.2.value.parameterKey = p.1 := by
    intro p hp
    obtain ⟨f, -, rfl⟩ := List.mem_map.mp (Assoc.mem_of_mem_ofList hp)
    rfl
  unfold mergeParameters
  rw [List.map_map, List.map_congr_left (g := (·.1)) hkey, Assoc.map_fst_ofList, List.map_map]
  rfl

/-- The same for the parameters that do not describe the request body. -/
theorem Classify.keys_regular (fs : List Fragment) :
    ((mergeParameters fs).filter fun f => !f.value.isBodyPart).map (·.value.parameterKey) =
      (firsts id (fs.map (·.value.parameterKey))).filter fun k => !isBodyKey k := by
  rw [← keys_mergeParameters, List.filter_map]
  congr 1
  exact List.filter_congr fun f _ => by rw [Json.isBodyPart_eq]; rfl

end ApiModel

import ApiModel.Classification.Basic
import ApiModel.Proofs.Nodes
import Mathlib.Logic.Relation

/-!
# What a node depends on

The graph of the nodes of a document, said without the classifier: `dependencySlots` lists the slots
that make up a node, `Depends` leads from a node to what these slots stand for, and a node is
`Invalid` if it can have no schema whatever the nodes below it are. A node without a schema is one
that `ReachesInvalid`.
-/

namespace ApiModel.Document

open Classify (Section)

variable {doc : Document} {f g : Fragment}

/-- The slots that a keyword of an object declares. -/
def sectionSlots (doc : Document) (f : Fragment) : Section → List Path
  | .properties =>
    if f.value.hasEntries "properties" then (doc.entries (f.slot "properties")).map (·.2) else []
  | .additionalProperties =>
    if f.value.additionalProperties = .schema then [f.slot "additionalProperties"] else []
  | .anyOf => if f.value.hasItems "anyOf" then doc.items (f.slot "anyOf") else []
  | .oneOf => if f.value.hasItems "oneOf" then doc.items (f.slot "oneOf") else []

def dependencySlots (doc : Document) (f : Fragment) : List Path :=
  match f.value.form with
  | .array => [f.slot "items"]
  | .object => doc.items (f.slot "allOf") ++ Section.all.flatMap (doc.sectionSlots f)
  | _ => []

/-- `g` is what one of the slots of `f` stands for. -/
def Depends (doc : Document) (f g : Fragment) : Prop :=
  ∃ slot ∈ doc.dependencySlots f, ∃ t, doc.resolve slot = .ok (some t) ∧ t.toFragment = g

/-- Two keywords of an object that exclude one another. -/
def isAmbiguous (f : Fragment) : Bool :=
  f.value.hasItems "oneOf" && f.value.hasEntries "properties"

/-- The node is at fault by its own form: it has no type or an unknown one, is an array of nothing,
or has keywords that exclude one another. -/
def IllFormed (doc : Document) (f : Fragment) : Prop :=
  match f.value.form with
  | .choice | .plain _ => False
  | .array => doc.resolve (f.slot "items") = .ok none
  | .object => isAmbiguous f
  | .untyped | .unknownType _ | .unknownFormat _ _ => True

/-- The node is at fault itself, or a reference in one of its slots is. -/
def Invalid (doc : Document) (f : Fragment) : Prop :=
  doc.IllFormed f ∨ ∃ slot ∈ doc.dependencySlots f, ∃ r, doc.resolve slot = .error r

def ReachesInvalid (doc : Document) (f : Fragment) : Prop :=
  ∃ g, Relation.ReflTransGen doc.Depends f g ∧ doc.Invalid g

theorem Invalid.reaches (h : doc.Invalid f) : doc.ReachesInvalid f := ⟨f, .refl, h⟩

theorem IllFormed.reaches (h : doc.IllFormed f) : doc.ReachesInvalid f := Invalid.reaches (.inl h)

theorem Depends.reaches (h : doc.Depends f g) (hg : doc.ReachesInvalid g) : doc.ReachesInvalid f :=
  let ⟨k, hk, hi⟩ := hg
  ⟨k, .head h hk, hi⟩

theorem Depends.holds (h : doc.Depends f g) : doc.Holds g := by
  obtain ⟨slot, -, t, ht, rfl⟩ := h
  exact holds_of_resolve ht

/-- The reference in the slot leads nowhere, or the slot stands for a node without a schema. -/
def SlotFails (doc : Document) (slot : Path) : Prop :=
  (∃ r, doc.resolve slot = .error r) ∨
    ∃ t, doc.resolve slot = .ok (some t) ∧ doc.ReachesInvalid t.toFragment

theorem SlotFails.reaches {slot : Path} (h : doc.SlotFails slot) (hm : slot ∈ doc.dependencySlots f) :
    doc.ReachesInvalid f := by
  rcases h with ⟨r, hr⟩ | ⟨t, ht, hi⟩
  · exact Invalid.reaches (.inr ⟨slot, hm, r, hr⟩)
  · exact Depends.reaches ⟨slot, hm, t, ht, rfl⟩ hi

/-! ### The slots of each form -/

theorem dependencySlots_array (h : f.value.form = .array) :
    doc.dependencySlots f = [f.slot "items"] := by
  simp [dependencySlots, h]

theorem dependencySlots_object (h : f.value.form = .object) :
    doc.dependencySlots f =
      doc.items (f.slot "allOf") ++ Section.all.flatMap (doc.sectionSlots f) := by
  simp [dependencySlots, h]

theorem mem_dependencySlots_of_section (h : f.value.form = .object) {s : Section} {slot : Path}
    (hs : slot ∈ doc.sectionSlots f s) : slot ∈ doc.dependencySlots f := by
  rw [dependencySlots_object h]
  exact List.mem_append_right _ (List.mem_flatMap.mpr ⟨s, s.mem_all, hs⟩)

end ApiModel.Document

import ApiModel.Proofs.Steps

/-!
# The ids of a model

Every id of a schema that occurs in a model, in a schema or in an operation or a server, is that of a
schema of the model, whatever cycles there were and whatever failed on the way.
-/

namespace ApiModel

/-- Every id of a schema that occurs in a model. -/
def Model.schemaIds (m : Model) : List SchemaId :=
  m.catalog.toList.flatMap (·.2.references) ++ m.groups.operations.flatMap (·.schemaIds) ++
    m.servers.toList.flatMap (·.schemaIds)

theorem Draft.Sound.schemaIds_modelOf {doc : Document} {d : Draft} (h : d.Sound doc) :
    d.progress.Fulfils (doc.modelOf d).schemaIds := by
  refine .append (.append ?_ ?_) ?_
  · intro id hid
    obtain ⟨⟨id', s⟩, hm, hr⟩ := List.mem_flatMap.mp hid
    exact h.coherent.isSome_of_fills
      (h.coherent.closed id' s (Catalog.get?_of_mem_toList hm) id hr)
  · intro id hid
    obtain ⟨op, hm, hr⟩ := List.mem_flatMap.mp hid
    exact h.operations op hm id hr
  · intro id hid
    obtain ⟨s, hm, hr⟩ := List.mem_flatMap.mp hid
    exact h.servers s (Array.mem_toList_iff.mp hm) id hr

namespace Document

/-- A model has a schema for every id that occurs in it. -/
theorem schemaIds_filled (doc : Document) (options : Options) (m : Model)
    (h : (doc.model options).result = .ok m) :
    ∀ id ∈ m.schemaIds, (m.catalog.get? id).isSome := by
  obtain ⟨steps, hsteps⟩ := doc.fullDraft_eq_after options
  have hsound := doc.sound_after steps
  rw [← hsteps] at hsound
  unfold model at h
  split at h
  · cases h
  · dsimp only at h
    split at h
    · cases h
    · cases h
      exact hsound.schemaIds_modelOf

/-- A tree that a parameter refers to, a server with a variable, and a list and an object that refer to
one another and fail for a key of the object. -/
def withCycles : Document where
  root := .obj [
    ("servers", .arr [.obj [("url", .str "/"), ("variables", .obj [("v", .obj [])])]]),
    ("paths", .obj [("/trees", .obj [("get", .obj [("parameters", .arr [.obj [
      ("name", .str "tree"), ("in", .str "query"),
      ("schema", .obj [("$ref", .str "#/definitions/Tree")])]])])])]),
    ("definitions", .obj [
      ("List", .obj [("type", .str "array"), ("items", .obj [("$ref", .str "#/definitions/Item")])]),
      ("Item", .obj [("properties", .obj [
        ("list", .obj [("$ref", .str "#/definitions/List")]),
        ("key", .obj [("type", .str "unknown")])])]),
      ("Tree", .obj [("properties", .obj [
        ("children", .obj [("type", .str "array"),
          ("items", .obj [("$ref", .str "#/definitions/Tree")])])])])])]

theorem schemaIds_filled_withCycles :
    (withCycles.model {}).result = .ok (withCycles.modelOf (withCycles.fullDraft {})) ∧
      (withCycles.modelOf (withCycles.fullDraft {})).schemaIds = [⟨1⟩, ⟨0⟩, ⟨0⟩, ⟨2⟩] ∧
      ∀ id ∈ (withCycles.modelOf (withCycles.fullDraft {})).schemaIds,
        ((withCycles.modelOf (withCycles.fullDraft {})).catalog.get? id).isSome := by
  have hrun : (withCycles.model {}).result =
      .ok (withCycles.modelOf (withCycles.fullDraft {})) := by
    have hfailure : withCycles.failure? = none := by decide +kernel
    have hshape : withCycles.isMisshapen "components" = false := by decide +kernel
    unfold model
    rw [hfailure]
    simp [hshape]
  exact ⟨hrun, by decide +kernel, schemaIds_filled withCycles {} _ hrun⟩

end Document

end ApiModel

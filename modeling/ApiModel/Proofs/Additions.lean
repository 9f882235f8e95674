import ApiModel.Proofs.Completeness

/-!
# What components add to a model

Components are classified after all operations and from where these ended, so all that they may do is
go on: what the operations made stays as it was, and what comes with the components is stored behind
it. This also holds where the components come back to nodes that were done or had failed, and where
they fail themselves.
-/

namespace ApiModel

/-- The second model has all that the first has, and the schemas that it has besides are stored behind
all slots of the first. -/
structure Model.GrowsTo (m m' : Model) : Prop where
  info : m'.info = m.info
  extensions : m'.extensions = m.extensions
  groups : m'.groups = m.groups
  servers : m'.servers = m.servers
  kept : ∀ id s, m.catalog.get? id = some s → m'.catalog.get? id = some s
  behind : ∀ id s, m'.catalog.get? id = some s → m.catalog.get? id = none →
    m.catalog.slots.size ≤ id.index

theorem Progress.Extends.growsTo {doc : Document} {d d' : Draft}
    (hx : d.progress.Extends d'.progress) (hg : d'.groups = d.groups) (hs : d'.servers = d.servers) :
    (doc.modelOf d).GrowsTo (doc.modelOf d') where
  info := rfl
  extensions := rfl
  groups := hg
  servers := hs
  kept _ _ := hx.get?
  behind id s h' h := by
    by_contra hlt
    have hslot := hx.slot id (Nat.lt_of_not_le hlt)
    have hsome : d.progress.catalog.get? id = some s := hslot.symm.trans h'
    have hnone : d.progress.catalog.get? id = none := h
    rw [hsome] at hnone
    cases hnone

namespace Document

theorem extends_fullDraft (doc : Document) (options : Options) :
    (doc.draft options).progress.Extends (doc.fullDraft options).progress := by
  rw [fullDraft_eq]
  split
  · have hx : Classify.Ensures doc [] (doc.draft options).progress
        (Classify.classifyComponents doc) _ True :=
      Classify.ensures_classifyComponents (doc.coherent_draft options)
    exact hx.leads_after.toExtends
  · exact .refl _

theorem fullDraft_of_no_components {doc : Document} {options : Options}
    (h : options.components = false) : doc.fullDraft options = doc.draft options := by
  rw [fullDraft_eq, h]
  rfl

/-- A run over the components too has all that a run over the operations alone has, and goes on where
that ends. -/
theorem growsTo_components (doc : Document) (separator : Char) (m m' : Model)
    (h : (doc.model ⟨separator, false⟩).result = .ok m)
    (h' : (doc.model ⟨separator, true⟩).result = .ok m') :
    m.GrowsTo m' ∧
      (doc.model ⟨separator, false⟩).diagnostics <+: (doc.model ⟨separator, true⟩).diagnostics := by
  obtain ⟨hfailure, -, rfl⟩ := result_eq_ok_iff.mp h
  obtain ⟨-, -, rfl⟩ := result_eq_ok_iff.mp h'
  rw [diagnostics_of_failure?_eq_none hfailure, diagnostics_of_failure?_eq_none hfailure,
    fullDraft_of_no_components rfl]
  -- What divides operation ids is all that the operations take from the options.
  have hdraft : doc.draft ⟨separator, false⟩ = doc.draft ⟨separator, true⟩ := rfl
  rw [hdraft]
  have hx := doc.extends_fullDraft ⟨separator, true⟩
  exact ⟨hx.growsTo (doc.groups_fullDraft _) (doc.servers_fullDraft _),
    (doc.notes_fullDraft ⟨separator, true⟩).said⟩

/-- Two parameters with schemas among the components, one of which fails; the components come to both
again, and to one that fails and withdraws a schema that depends on it. -/
def withGarden : Document where
  root := .obj [
    ("paths", .obj [("/garden", .obj [("get", .obj [("parameters", .arr [
      .obj [("name", .str "tree"), ("in", .str "query"),
        ("schema", .obj [("$ref", .str "#/components/schemas/Tree")])],
      .obj [("name", .str "rock"), ("in", .str "query"),
        ("schema", .obj [("$ref", .str "#/components/schemas/Rock")])]])])])]),
    ("components", .obj [("schemas", .obj [
      ("Pond", .obj [("properties", .obj [
        ("fish", .obj [("type", .str "array"),
          ("items", .obj [("$ref", .str "#/components/schemas/Pond")])]),
        ("rock", .obj [("$ref", .str "#/components/schemas/Rock")])])]),
      ("Rock", .obj [("type", .str "stone")]),
      ("Tree", .obj [("type", .str "string")]),
      ("Bench", .obj [("type", .str "array"),
        ("items", .obj [("$ref", .str "#/components/schemas/Tree")])])])])]

theorem growsTo_components_withGarden :
    let without := withGarden.modelOf (withGarden.fullDraft ⟨'_', false⟩)
    let full := withGarden.modelOf (withGarden.fullDraft ⟨'_', true⟩)
    (withGarden.model ⟨'_', false⟩).result = .ok without ∧
      (withGarden.model ⟨'_', true⟩).result = .ok full ∧
      without.catalog.toList.map (·.1) = [⟨0⟩] ∧ without.catalog.slots.size = 2 ∧
      full.catalog.toList.map (·.1) = [⟨0⟩, ⟨4⟩] ∧
      without.GrowsTo full ∧
      (withGarden.model ⟨'_', false⟩).diagnostics <+: (withGarden.model ⟨'_', true⟩).diagnostics := by
  intro without full
  have hwithout : (withGarden.model ⟨'_', false⟩).result = .ok without :=
    result_eq_ok_iff.mpr ⟨by decide +kernel, by decide +kernel, rfl⟩
  have hfull : (withGarden.model ⟨'_', true⟩).result = .ok full :=
    result_eq_ok_iff.mpr ⟨by decide +kernel, by decide +kernel, rfl⟩
  obtain ⟨hgrows, hsaid⟩ := growsTo_components withGarden '_' without full hwithout hfull
  exact ⟨hwithout, hfull, by decide +kernel, by decide +kernel, by decide +kernel, hgrows, hsaid⟩

end Document

end ApiModel

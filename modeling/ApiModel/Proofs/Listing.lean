import ApiModel.Proofs.Attempts
import Mathlib.Data.List.Pairwise

/-!
# The groups of a model

The groups list the operations of a document in the order in which the walk comes to them, each
operation once, and name each of them after the endpoint that it was made from. An operation is left
out only if it was rejected, and as a duplicate only if an earlier one has its name.
-/

namespace ApiModel

theorem mem_addedBy {as : List Attempt} {o : String × Operation} :
    o ∈ addedBy as ↔ ∃ a ∈ as, a.result = .ok o := by
  simp only [addedBy, List.mem_filterMap, Attempt.added?_eq_some_iff]

theorem eq_of_result_eq {as : List Attempt} (hn : ((addedBy as).map identityOf).Nodup)
    {a a' : Attempt} (ha : a ∈ as) (ha' : a' ∈ as) {o : String × Operation} (hr : a.result = .ok o)
    (hr' : a'.result = .ok o) : a = a' := by
  have hp : as.Pairwise fun a a' => ∀ o ∈ a.added?, ∀ o' ∈ a'.added?, o ≠ o' :=
    List.pairwise_filterMap.mp (List.Nodup.of_map _ hn)
  have : Std.Symm fun a a' : Attempt => ∀ o ∈ a.added?, ∀ o' ∈ a'.added?, o ≠ o' :=
    ⟨fun a a' h o ho o' ho' => (h o' ho' o ho).symm⟩
  by_contra hne
  exact hp.forall ha ha' hne o (Attempt.added?_eq_some_iff.mpr hr) o
    (Attempt.added?_eq_some_iff.mpr hr') rfl

namespace Groups

variable {added : List (String × Operation)} {g : Group}

theorem mem_gather :
    g ∈ gather added ↔ g.name ∈ namesOf added ∧ g = ⟨g.name, operationsOf added g.name⟩ := by
  rw [gather, List.mem_map]
  constructor
  · rintro ⟨name, hname, rfl⟩
    exact ⟨hname, rfl⟩
  · rintro ⟨hname, hg⟩
    exact ⟨g.name, hname, hg.symm⟩

theorem nodup_names_of_distinct (hn : (added.map identityOf).Nodup) (name : String) :
    ((operationsOf added name).map (·.name)).Nodup := by
  rw [operationsOf, List.map_map]
  refine List.Nodup.map_on ?_ ((List.Nodup.of_map _ hn).filter _)
  simp only [List.mem_filter, decide_eq_true_eq]
  rintro o ⟨ho, rfl⟩ o' ⟨ho', hname⟩ he
  refine List.inj_on_of_nodup_map hn ho ho' ?_
  simp only [identityOf, hname]
  exact congrArg _ he

end Groups

/-! ### The operations of a model -/

namespace Document

/-- What the groups of a model say of the operations of its document. -/
structure ListsEndpoints (doc : Document) (options : Options) (groups : Groups) : Prop where
  /-- The walk comes to each operation once, in its order. -/
  walked : (doc.attempts options).map (·.endpoint) = doc.endpoints
  once : (doc.endpoints.map (·.operation.path)).Nodup
  /-- Each operation of a group is what was made of one endpoint. -/
  origin : ∀ g ∈ groups, ∀ op ∈ g.operations,
    ∃! a, a ∈ doc.attempts options ∧ a.result = .ok (g.name, op)
  described : ∀ a ∈ doc.attempts options, ∀ o, a.result = .ok o →
    a.endpoint.Describes options.separator o
  /-- The groups are in the order of their first operations. -/
  names : groups.map (·.name) = firsts id ((addedBy (doc.attempts options)).map (·.1))
  /-- The operations of a group are in the order of the walk. -/
  order : ∀ g ∈ groups,
    g.operations = ((addedBy (doc.attempts options)).filter fun o => o.1 = g.name).map (·.2)
  /-- A group is found by its name. -/
  found : ∀ g ∈ groups, groups.group g.name = g
  nonempty : ∀ g ∈ groups, g.operations ≠ []
  distinct : ∀ g ∈ groups, (g.operations.map (·.name)).Nodup
  /-- An operation is left out exactly if it was rejected. -/
  absent : ∀ a ∈ doc.attempts options,
    (∀ g ∈ groups, ∀ op ∈ g.operations, a.result ≠ .ok (g.name, op)) ↔ ∃ r, a.result = .error r
  /-- It is rejected as a duplicate exactly if an earlier one was added that has its identity. -/
  duplicate : ∀ before a after, doc.attempts options = before ++ a :: after →
    ((∃ group member, a.result = .error (.duplicateOperation group member)) ↔
      ∃ o ∈ addedBy before, identityOf o = a.endpoint.identity options.separator)

theorem groups_of_model {doc : Document} {options : Options} {m : Model}
    (h : (doc.model options).result = .ok m) :
    m.groups = Groups.gather (addedBy (doc.attempts options)) := by
  obtain ⟨-, -, rfl⟩ := result_eq_ok_iff.mp h
  exact (doc.groups_fullDraft options).trans (doc.lists_draft options).groups

/-- The groups of a model list the operations of its document. -/
theorem groups_list_endpoints (doc : Document) (options : Options) (m : Model)
    (h : (doc.model options).result = .ok m) : doc.ListsEndpoints options m.groups := by
  have hdistinct := (doc.lists_draft options).distinct
  rw [groups_of_model h]
  constructor
  case walked => exact doc.endpoints_attempts options
  case once => exact nodup_map_firsts ..
  case origin =>
    intro g hg op hop
    rw [(Groups.mem_gather.mp hg).2] at hop
    obtain ⟨a, ha, hr⟩ := mem_addedBy.mp (Groups.mem_operationsOf.mp hop)
    exact ⟨a, ⟨ha, hr⟩, fun a' ⟨ha', hr'⟩ => eq_of_result_eq hdistinct ha' ha hr' hr⟩
  case described =>
    intro a ha o ho
    obtain ⟨before, after, hs⟩ := List.append_of_mem ha
    obtain ⟨d, -, had, -⟩ := exists_draft_of_attempts hs
    rw [had] at ho
    exact Draft.describes_attempt ho
  case names => exact Groups.map_name_gather _
  case order =>
    intro g hg
    exact congrArg Group.operations (Groups.mem_gather.mp hg).2
  case found =>
    intro g hg
    rw [Groups.group_gather]
    exact (Groups.mem_gather.mp hg).2.symm
  case nonempty =>
    intro g hg
    rw [(Groups.mem_gather.mp hg).2]
    exact Groups.operationsOf_ne_nil (Groups.mem_gather.mp hg).1
  case distinct =>
    intro g hg
    rw [(Groups.mem_gather.mp hg).2]
    exact Groups.nodup_names_of_distinct hdistinct g.name
  case absent =>
    intro a ha
    constructor
    · intro hno
      cases hr : a.result with
      | error r => exact ⟨r, rfl⟩
      | ok o =>
        have ho := mem_addedBy.mpr ⟨a, ha, hr⟩
        have hg : ⟨o.1, Groups.operationsOf (addedBy (doc.attempts options)) o.1⟩ ∈
            Groups.gather (addedBy (doc.attempts options)) :=
          Groups.mem_gather.mpr ⟨Groups.mem_namesOf.mpr ⟨o.2, ho⟩, rfl⟩
        exact absurd hr (hno _ hg o.2 (Groups.mem_operationsOf.mpr ho))
    · rintro ⟨r, hr⟩ g - op - hok
      rw [hr] at hok
      cases hok
  case duplicate =>
    intro before a after hs
    obtain ⟨d, hd, had, -⟩ := exists_draft_of_attempts hs
    rw [had]
    exact hd.duplicate_attempt doc options.separator a.endpoint

/-- A path item that a second path refers to, and an operation with the id of an earlier one. -/
def withNamesakes : Document where
  root := .obj [("paths", .obj [
    ("/a", .obj [("get", .obj [("operationId", .str "Leaf_List")]),
      ("post", .obj [("operationId", .str "Tree_Make")])]),
    ("/b", .obj [("$ref", .str "#/paths/~1a")]),
    ("/c", .obj [("get", .obj [("operationId", .str "Leaf_List")])]),
    ("/d", .obj [("get", .obj [("operationId", .str "Leaf_Find")])])])]

theorem groups_list_endpoints_withNamesakes :
    (withNamesakes.model {}).result = .ok (withNamesakes.modelOf (withNamesakes.fullDraft {})) ∧
      (withNamesakes.modelOf (withNamesakes.fullDraft {})).groups.map
        (fun g => (g.name, g.operations.map (·.name))) =
          [("Leaf", ["List", "Find"]), ("Tree", ["Make"])] ∧
      withNamesakes.ListsEndpoints {} (withNamesakes.modelOf (withNamesakes.fullDraft {})).groups := by
  have hrun : (withNamesakes.model {}).result =
      .ok (withNamesakes.modelOf (withNamesakes.fullDraft {})) :=
    result_eq_ok_iff.mpr ⟨by decide +kernel, by decide +kernel, rfl⟩
  exact ⟨hrun, by decide +kernel, groups_list_endpoints withNamesakes {} _ hrun⟩

end Document

end ApiModel

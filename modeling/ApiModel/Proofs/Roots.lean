import ApiModel.Proofs.Completeness
import ApiModel.Proofs.Reach

/-!
# Schemas are reached from operations and servers

While no error is reported, no step rejects its node, and so everything that is left out leaves nothing
behind: parameters that others override are never built, and what is built ends up in an operation. The
schemas of a draft are then all reached from the ids in its operations and servers
(`Draft.Rooted`), and each operation that the walk comes to keeps this, with its own ids and those of
the servers that are new as further roots.
-/

namespace ApiModel

theorem ServerVariable.growsBy_declare (c : Catalog) (name : String) (v : Json) :
    c.GrowsBy [(declare name v c).1.schema] (declare name v c).2 := by
  unfold declare
  dsimp only
  have htext := (Catalog.GrowsBy.refl c []).add
    (textSchema name (v.description missingDescription)) [] (by simp)
  split
  · exact htext
  · exact htext.add _ [] (by simp [Schema.references, Schema.Kind.references])

theorem ServerVariable.growsBy_declareAll (c : Catalog) (fields : List (String × Json)) :
    c.GrowsBy ((declareAll fields c).1.map (·.schema)) (declareAll fields c).2 := by
  induction fields generalizing c with
  | nil => exact .refl c _
  | cons field fields ih =>
    obtain ⟨name, v⟩ := field
    exact (growsBy_declare c name v).trans (ih _)

namespace Servers

/-- The ids of schemas in servers. -/
def schemaIds (servers : Servers) : List SchemaId := servers.toList.flatMap (·.schemaIds)

theorem schemaIds_push (servers : Servers) (s : Server) :
    schemaIds (servers.push s) = servers.schemaIds ++ s.schemaIds := by
  simp [schemaIds]

variable {c₀ c : Catalog} {others : List SchemaId} {servers : Servers}

theorem growsBy_register (h : c₀.GrowsBy (others ++ servers.schemaIds) c) (url : String) (v : Json) :
    c₀.GrowsBy (others ++ (servers.register c url v).2.1.schemaIds) (servers.register c url v).2.2 := by
  unfold register
  split
  · exact h
  · have hnew := ServerVariable.growsBy_declareAll c ((v.fields? "variables").getD [])
    refine (h.trans hnew).mono ?_
    rw [schemaIds_push, List.append_assoc]
    exact List.Subset.refl _

theorem growsBy_registerAll (h : c₀.GrowsBy (others ++ servers.schemaIds) c) (vs : List Json)
    (known : List ServerId) :
    c₀.GrowsBy (others ++ (registerAll vs known servers c).2.1.schemaIds)
      (registerAll vs known servers c).2.2 := by
  induction vs generalizing known servers c with
  | nil => exact h
  | cons v vs ih =>
    unfold registerAll
    split
    · exact ih h known
    · rename_i url _
      exact ih (growsBy_register h url v) _

end Servers

namespace Classify

variable {doc : Document} {f : Fragment} {α β : Type} {x : Classify α} {ids : List SchemaId}
  {roots : α → List SchemaId}

theorem grows_buildParameter (f : Fragment) :
    Grows [] (buildParameter doc f) fun a => [a.schema] := by
  unfold buildParameter
  split
  · exact grows_reject _ _
  · dsimp only
    split
    · refine (grows_classifySlot doc _ _).bind fun id? => ?_
      cases id? with
      | none => exact grows_reject _ _
      | some id => exact .pure (List.Subset.refl _)
    · rw [pure_bind]
      exact grows_reject _ _

theorem grows_attempt_reject (r : Rejection) (source : String) :
    Grows ids (attempt (reject r source : Classify α)) fun _ => ids := by
  intro c p _ _ hc hrun
  cases hrun
  rwa [Progress.catalog_foldl_report]

theorem grows_resolveParameters (slots : List Path) :
    Grows [] (resolveParameters doc slots) fun _ => [] := by
  induction slots with
  | nil => exact .pure (List.Subset.refl _)
  | cons slot slots ih =>
    unfold resolveParameters
    dsimp only
    split
    · exact (grows_attempt_reject _ _).bind fun _ => ih.bind fun _ => .pure (List.Subset.refl _)
    · rw [pure_bind]
      exact ih.bind fun _ => .pure (List.Subset.refl _)

theorem grows_mergedParameters (item operation : Fragment) :
    Grows [] (mergedParameters doc item operation) fun _ => [] :=
  (grows_resolveParameters _).bind fun _ => .pure (List.Subset.refl _)

theorem grows_isStream (id : SchemaId) : Grows ids (isStream id) fun _ => ids := by
  intro c p _ _ hc hrun
  cases hrun
  exact hc

theorem grows_buildRequest (identity : Identity) (operation : Fragment) :
    Grows [] (buildRequest doc identity operation) fun r? => (r?.map (·.schema)).toList := by
  unfold buildRequest
  split
  · exact grows_reject _ _
  · exact .pure (List.nil_subset _)
  · split
    · exact .pure (List.nil_subset _)
    · dsimp only
      refine (grows_classifySlot doc _ _).bind fun id? => ?_
      cases id? with
      | none => exact grows_reject _ _
      | some id =>
        refine (grows_isStream id).bind fun b => ?_
        cases b <;> exact .pure (List.Subset.refl _)
    · exact grows_reject _ _

theorem grows_buildBodyRequest (operation : Json) (body : Fragment) :
    Grows [] (buildBodyRequest doc operation body) fun r => [r.schema] := by
  unfold buildBodyRequest
  refine (grows_buildParameter body).bind fun a => (grows_isStream a.schema).bind fun b => ?_
  cases b <;> exact .pure (List.Subset.refl _)

theorem grows_buildFields (fs : List Fragment) :
    Grows [] (buildFields doc fs) fun as => as.map (·.schema) := by
  induction fs with
  | nil => exact .pure (List.Subset.refl _)
  | cons f fs ih =>
    unfold buildFields
    refine (grows_buildParameter f).bind fun a => (ih.frame _).bind fun as => ?_
    exact .pure (List.Subset.refl _)

/-- The fields of a form are reached from the object that gathers them. -/
theorem grows_buildFormRequest (identity : Identity) (operation : Json) (parts : List Fragment) :
    Grows [] (buildFormRequest doc identity operation parts) fun r => [r.schema] := by
  unfold buildFormRequest
  refine (grows_buildFields parts).bind fun fields => ?_
  have hget : Grows (fields.map (·.schema)) (get : Classify Progress)
      fun _ => fields.map (·.schema) := by
    intro c p _ _ hc hrun
    cases hrun
    exact hc
  refine hget.bind fun q => ?_
  dsimp only
  have gathered : ∀ mediaType, Grows (fields.map (·.schema))
      (addSchema (.undescribed (identity.joined ++ "Body")
        (.object (fields.map fieldProperty) none none)) >>= fun schema =>
          pure (⟨mediaType, .parameter (formParameter operation fields schema)⟩ : Request))
      fun r => [r.schema] := by
    intro mediaType
    refine (grows_addSchema [] fun id hid => .inl ?_).bind fun id => ?_
    · obtain ⟨a, ha, rfl⟩ := List.mem_map.mp hid
      exact List.mem_map.mpr ⟨_, List.mem_map.mpr ⟨a, ha, rfl⟩, rfl⟩
    · exact .pure (List.Subset.refl _)
  split
  · split
    · exact .pure (List.Subset.refl _)
    · exact gathered _
  · exact gathered _

theorem grows_buildPartsRequest (identity : Identity) (operation : Json) (parts : List Fragment) :
    Grows [] (buildPartsRequest doc identity operation parts)
      fun r? => (r?.map (·.schema)).toList := by
  unfold buildPartsRequest
  split
  · exact .pure (List.nil_subset _)
  · split
    · exact (grows_buildBodyRequest _ _).map fun r => List.Subset.refl _
    · exact (grows_buildFormRequest _ _ _).map fun r => List.Subset.refl _

/-- As `Grows`, of a step that nothing was reported in. -/
def GrowsIfClean (ids : List SchemaId) (x : Classify α) (roots : α → List SchemaId) : Prop :=
  ∀ p a p', p.Accounted → x p = .ok a p' → p.Notes p' ∧
    (p'.Clean → ∀ c, Catalog.GrowsBy c ids p.catalog → c.GrowsBy (roots a) p'.catalog)

namespace GrowsIfClean

theorem of {Q : α → Prop} {E : Rejection → Prop} (hd : Discloses x Q E) (hx : Grows ids x roots) :
    GrowsIfClean ids x roots := by
  intro p a p' ha hrun
  have hnotes := hd p ha
  rw [hrun] at hnotes
  exact ⟨hnotes.1, fun _ c hc => hx c p a p' hc hrun⟩

theorem pure {a : α} (h : ids ⊆ roots a) : GrowsIfClean ids (Pure.pure a) roots :=
  .of (.pure (Q := fun _ => True) (E := fun _ => True) trivial) (.pure h)

theorem bind {f : α → Classify β} {roots' : β → List SchemaId} (hx : GrowsIfClean ids x roots)
    (hf : ∀ a, GrowsIfClean (roots a) (f a) roots') : GrowsIfClean ids (x >>= f) roots' := by
  intro p b q ha hrun
  obtain ⟨a, p', hrun, hrun'⟩ := exists_of_bind_eq_ok hrun
  obtain ⟨hn, hg⟩ := hx p a p' ha hrun
  obtain ⟨hn', hg'⟩ := hf a p' b q hn.accounted hrun'
  exact ⟨hn.trans hn', fun hc c h => hg' hc c (hg (hn'.clean hc) c h)⟩

theorem frame (hx : GrowsIfClean [] x roots) (ids : List SchemaId) :
    GrowsIfClean ids x fun a => ids ++ roots a := by
  intro p a p' ha hrun
  obtain ⟨hn, hg⟩ := hx p a p' ha hrun
  exact ⟨hn, fun hc c h => h.trans (hg hc p.catalog (.refl _ _))⟩

/-- A step that comes to nothing has reported an error. -/
theorem attempt {Q : α → Prop} {E : Rejection → Prop} (hd : Discloses x Q E)
    (hx : Grows [] x roots) : GrowsIfClean [] (attempt x) fun a? => a?.toList.flatMap roots := by
  intro p a? p' ha hrun
  have hnotes := hd p ha
  unfold Classify.attempt at hrun
  split at hrun
  · rename_i a _ hrun'
    cases hrun
    rw [hrun'] at hnotes
    refine ⟨hnotes.1, fun _ c hc => (hx c p a p' hc hrun').mono ?_⟩
    simp
  · rename_i hrun'
    cases hrun
    rw [hrun'] at hnotes
    exact ⟨hnotes.1, fun hc => absurd hc hnotes.2.1⟩

end GrowsIfClean

theorem grows_buildParameters (fs : List Fragment) :
    GrowsIfClean [] (buildParameters doc fs) fun as => as.map (·.schema) := by
  induction fs with
  | nil => exact .pure (List.Subset.refl _)
  | cons f fs ih =>
    unfold buildParameters
    have hf := GrowsIfClean.attempt (discloses_buildParameter f) (@grows_buildParameter doc f)
    refine hf.bind fun a? => (ih.frame _).bind fun as => .pure ?_
    cases a? <;> simp

theorem grows_buildOperation (separator : Char) (groups : Groups) (e : Endpoint) :
    GrowsIfClean [] (buildOperation doc separator groups e.method e.key e.item e.operation)
      fun o => o.2.schemaIds := by
  unfold buildOperation
  dsimp only
  generalize Identity.ofOperation e.method e.key e.operation.value e.operation.pointer separator = found
  obtain ⟨identity, said⟩ := found
  have hsaid : GrowsIfClean [] (said.forM report) fun _ => [] := by
    refine .of (discloses_forM_report (E := fun _ => True) said) ?_
    induction said with
    | nil => exact .pure (List.Subset.refl _)
    | cons d said ih => exact (grows_report d).bind fun _ => ih
  refine hsaid.bind fun _ => ?_
  split
  · intro p a p' _ hrun
    cases hrun
  · have hmerged : GrowsIfClean [] (mergedParameters doc e.item e.operation) fun _ => [] :=
      .of (discloses_mergedParameters (E := fun _ => True) _ _) (grows_mergedParameters _ _)
    refine hmerged.bind fun merged => (grows_buildParameters _).bind fun parameters => ?_
    have hrequest := GrowsIfClean.of (discloses_buildRequest identity e.operation)
      (@grows_buildRequest doc identity e.operation)
    refine (hrequest.frame _).bind fun r? => ?_
    cases r? with
    | some r =>
      dsimp only
      rw [pure_bind]
      exact .pure (List.Subset.refl _)
    | none =>
      have hparts := fun v fs => GrowsIfClean.of (discloses_buildPartsRequest identity v fs)
        (@grows_buildPartsRequest doc identity v fs)
      exact ((hparts _ _).frame _).bind fun r? => .pure (by simp [Operation.schemaIds])

end Classify

/-! ### Drafts -/

namespace Draft

variable {doc : Document} {separator : Char} {d last : Draft} {added : List (String × Operation)}
  {as : List Attempt}

/-- The ids of schemas in operations and servers. -/
def roots (d : Draft) : List SchemaId :=
  d.groups.operations.flatMap (·.schemaIds) ++ d.servers.schemaIds

/-- Every schema is reached from the ids in operations and servers. -/
def Rooted (d : Draft) : Prop := Catalog.empty.GrowsBy d.roots d.progress.catalog

theorem mem_schemaIds_gather {id : SchemaId} :
    id ∈ (Groups.gather added).operations.flatMap (·.schemaIds) ↔
      id ∈ added.flatMap (·.2.schemaIds) := by
  rw [((Groups.operations_gather_perm added).flatMap_right _).mem_iff, List.flatMap_map]

theorem Rooted.attempted (h : d.Rooted) (hl : d.Lists added) (e : Endpoint)
    (hc : (d.attempted doc separator e).progress.Clean) : (d.attempted doc separator e).Rooted := by
  obtain ⟨o, ho, -⟩ := added_of_clean hl.accounted hc
  have hgroups := @Lists.groups_attempted doc separator d added e hl
  rw [Attempt.added?_eq_some_iff.mpr ho, Option.toList_some] at hgroups
  have hx := @Classify.grows_buildOperation doc separator d.groups e
  unfold attempt at ho
  dsimp only at ho
  cases hrun : Classify.buildOperation doc separator d.groups e.method e.key e.item e.operation
    d.progress with
  | error r p => rw [hrun] at ho; cases ho
  | ok found p =>
    rw [hrun] at ho
    cases ho
    have hd : d.attempted doc separator e =
        place { d with progress := p } doc e.item.value e.operation.value found.1 found.2 := by
      unfold Draft.attempted addOperation
      rw [hrun]
    have hclean : p.Clean := by rw [hd] at hc; exact hc
    have hbuilt := (hx d.progress found p hl.accounted hrun).2 hclean _ (.refl _ _)
    have hbefore := h.trans hbuilt
    have hgrown : Catalog.empty.GrowsBy
        ((d.groups.operations.flatMap (·.schemaIds) ++ found.2.schemaIds) ++
          (d.attempted doc separator e).servers.schemaIds)
        (d.attempted doc separator e).progress.catalog := by
      rw [hd]
      exact Servers.growsBy_registerAll (hbefore.mono (by simp [roots])) _ []
    refine hgrown.mono fun id hid => ?_
    refine List.mem_append.mpr ((List.mem_append.mp hid).imp_left fun hid => ?_)
    rw [hgroups, mem_schemaIds_gather, List.flatMap_append, List.mem_append]
    rcases List.mem_append.mp hid with hid | hid
    · rw [hl.groups, mem_schemaIds_gather] at hid
      exact .inl hid
    · exact .inr (by simpa [Operation.schemaIds] using hid)

theorem Walk.rooted (hw : Walk doc separator d as last) (hl : d.Lists added) (h : d.Rooted)
    (hc : last.progress.Clean) : last.Rooted := by
  induction hw generalizing added with
  | done d => exact h
  | unresolved _ _ _ ih =>
    refine ih (hl.progress (hl.accounted.notes_reports _)) ?_ hc
    unfold Rooted
    rw [Progress.catalog_foldl_report]
    exact h
  | attempt e hw ih =>
    have hl' := hl.attempted doc separator e
    exact ih hl' (h.attempted hl e ((hw.notes hl'.accounted).clean hc)) hc

end Draft

/-- The ids of schemas that a model has outside its catalog. -/
def Model.roots (m : Model) : List SchemaId :=
  m.groups.operations.flatMap (·.schemaIds) ++ m.servers.schemaIds

namespace Document

/-- A run without errors over the operations alone stores nothing but what they and their servers lead
to. -/
theorem reached_of_no_errors (doc : Document) (separator : Char) (m : Model)
    (h : (doc.model ⟨separator, false⟩).result = .ok m)
    (herrors : Diagnostic.errorCount (doc.model ⟨separator, false⟩).diagnostics = 0) :
    ∀ id, (m.catalog.get? id).isSome → ∃ root ∈ m.roots, m.catalog.Reaches root id := by
  obtain ⟨hfailure, -, rfl⟩ := result_eq_ok_iff.mp h
  rw [diagnostics_of_failure?_eq_none hfailure, fullDraft_eq] at herrors
  rw [fullDraft_eq]
  have hw := doc.walk_draft ⟨separator, false⟩
  have hempty : Draft.Rooted {} := .refl _ _
  have hrooted := hw.rooted .initial hempty herrors
  exact fun id hs => hrooted.reached id hs (Nat.zero_le _)

/-- A server with a choice, a parameter that an operation overrides, a form with a field that has
parents, and a component that nothing refers to. -/
def withOrchard : Document where
  root := .obj [
    ("servers", .arr [.obj [("url", .str "/"), ("variables", .obj [
      ("v", .obj [("enum", .arr [.str "1", .str "2"])])])]]),
    ("paths", .obj [("/orchard", .obj [
      ("parameters", .arr [.obj [("name", .str "kind"), ("in", .str "query"),
        ("type", .str "integer")]]),
      ("post", .obj [("operationId", .str "Orchard_Add"), ("parameters", .arr [
        .obj [("name", .str "kind"), ("in", .str "query"),
          ("schema", .obj [("enum", .arr [.str "apple", .str "plum"])])],
        .obj [("name", .str "rows"), ("in", .str "formData"), ("type", .str "integer")],
        .obj [("name", .str "tree"), ("in", .str "formData"),
          ("schema", .obj [("$ref", .str "#/definitions/Tree")])]])])])]),
    ("definitions", .obj [
      ("Plant", .obj [("type", .str "object"), ("additionalProperties", .bool true)]),
      ("Tree", .obj [("allOf", .arr [.obj [("$ref", .str "#/definitions/Plant")]]),
        ("properties", .obj [("next", .obj [("$ref", .str "#/definitions/Tree")])])]),
      ("Rock", .obj [("type", .str "string")])])]

theorem reached_of_no_errors_withOrchard :
    let m := withOrchard.modelOf (withOrchard.fullDraft ⟨'_', false⟩)
    (withOrchard.model ⟨'_', false⟩).result = .ok m ∧
      Diagnostic.errorCount (withOrchard.model ⟨'_', false⟩).diagnostics = 0 ∧
      m.catalog.toList.map (·.1.index) = [0, 1, 2, 3, 4, 5, 6, 7, 8, 9] ∧
      m.roots.map (·.index) = [0, 7, 9] ∧
      ∀ id, (m.catalog.get? id).isSome → ∃ root ∈ m.roots, m.catalog.Reaches root id := by
  intro m
  have hrun : (withOrchard.model ⟨'_', false⟩).result = .ok m :=
    result_eq_ok_iff.mpr ⟨by decide +kernel, by decide +kernel, rfl⟩
  have herrors : Diagnostic.errorCount (withOrchard.model ⟨'_', false⟩).diagnostics = 0 := by
    decide +kernel
  exact ⟨hrun, herrors, by decide +kernel, by decide +kernel,
    reached_of_no_errors withOrchard '_' m hrun herrors⟩

end Document

end ApiModel

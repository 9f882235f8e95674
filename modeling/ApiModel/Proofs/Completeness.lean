import ApiModel.Proofs.Attempts

/-!
# Runs without errors

If no error was reported, nothing of the document is missing from its model: every path and every
method stands for something, each operation is listed with all its parameters, and every schema
among the components was classified.
-/

namespace ApiModel

namespace Document

variable {doc : Document}

/-- What cannot be resolved on a walk is among its visits. -/
theorem resolve_ne_error_of_pathVisits {entries : List (String × Path)} {seen : List Path}
    (hv : ∀ r source, .unresolved r source ∈ doc.pathVisits entries seen → r.code? = none) :
    (∀ e ∈ entries, ∀ r, doc.resolve e.2 ≠ .error r) ∧
      ∀ i ∈ fresh (·.2.path) seen (doc.pathItems entries), ∀ method r,
        doc.resolve (i.2.slot (Method.text method)) ≠ .error r := by
  have coded : ∀ {slot r}, doc.resolve slot = .error r → r.code? ≠ none := fun h => by
    simp [code?_of_resolve h]
  induction entries generalizing seen with
  | nil => exact ⟨fun _ h => (List.not_mem_nil h).elim, fun _ h => (List.not_mem_nil h).elim⟩
  | cons entry entries ih =>
    obtain ⟨key, slot⟩ := entry
    rw [List.forall_mem_cons]
    rw [pathVisits_cons] at hv
    cases hres : doc.resolve slot with
    | error r =>
      rw [hres] at hv
      exact absurd (hv r _ (List.mem_cons_self ..)) (coded hres)
    | ok target =>
      rw [hres] at hv
      cases target with
      | none =>
        rw [pathItems_cons_of_none (node?_of_none hres)]
        obtain ⟨hentries, hitems⟩ := ih hv
        exact ⟨⟨by simp, hentries⟩, hitems⟩
      | some item =>
        rw [fresh_pathItems_cons seen (node?_of_some hres)]
        dsimp only at hv
        split at hv
        · rename_i hseen
          rw [if_pos hseen]
          obtain ⟨hentries, hitems⟩ := ih hv
          exact ⟨⟨by simp, hentries⟩, hitems⟩
        · rename_i hseen
          rw [if_neg hseen, List.forall_mem_cons]
          obtain ⟨hentries, hitems⟩ := ih fun r source hm => hv r source (List.mem_append_right _ hm)
          refine ⟨⟨by simp, hentries⟩, fun method r h => ?_, hitems⟩
          have hm : Visit.unresolved r item.pointer ∈ doc.itemVisits key item.toFragment :=
            List.mem_filterMap.mpr ⟨method, method.mem_all, by rw [h]⟩
          exact coded h (hv r _ (List.mem_append_left _ hm))

theorem isSome_node? {slot : Path} (hd : (doc.at? slot).isSome)
    (hr : ∀ r, doc.resolve slot ≠ .error r) : (doc.node? slot).isSome := by
  cases hres : doc.resolve slot with
  | error r => exact absurd hres (hr r)
  | ok target =>
    cases target with
    | none => exact absurd hres (resolve_ne_none hd)
    | some t => rw [node?_of_some hres]; rfl

end Document

namespace Draft

variable {doc : Document} {d : Draft} {separator : Char}

theorem notes_visitAll (h : d.progress.Accounted) (separator : Char) (visits : List Visit)
    (seen : Memo Path Unit) :
    d.progress.Notes (visitAll doc separator visits seen d).2.progress := by
  induction visits generalizing seen d with
  | nil => exact h.refl_notes
  | cons v visits ih =>
    have hn := @notes_visit doc d h separator seen v
    exact hn.trans (ih hn.accounted _)

theorem code?_of_clean {visits : List Visit} {seen : Memo Path Unit} (h : d.progress.Accounted)
    (hc : (visitAll doc separator visits seen d).2.progress.Clean) :
    ∀ r source, .unresolved r source ∈ visits → r.code? = none := by
  intro r source hm
  induction visits generalizing seen d with
  | nil => cases hm
  | cons v visits ih =>
    have hn := @notes_visit doc d h separator seen v
    rcases List.mem_cons.mp hm with rfl | hm
    · have hlast := @notes_visitAll doc _ hn.accounted separator visits seen
      by_contra hr
      obtain ⟨c, hcode⟩ := Option.ne_none_iff_exists'.mp hr
      exact Progress.not_clean_of_said hcode (Progress.diagnostics_foldl_report ..)
        (hlast.clean hc)
    · exact ih hn.accounted hc hm

/-- An operation after which there is no error was added, with all its parameters. -/
theorem added_of_clean {e : Endpoint} (h : d.progress.Accounted)
    (hc : (d.attempted doc separator e).progress.Clean) :
    ∃ o, (d.attempt doc separator e).result = .ok o ∧ e.Describes separator o ∧
      Classify.HasDeclared doc e.item e.operation o.2 := by
  have hx := @Classify.discloses_buildOperation doc separator d.groups e _ h
  unfold attempted addOperation at hc
  cases hrun : Classify.buildOperation doc separator d.groups e.method e.key e.item e.operation
    d.progress with
  | error r p =>
    rw [hrun] at hx hc
    exact absurd hc hx.2.1
  | ok o p =>
    rw [hrun] at hx hc
    have hr : (d.attempt doc separator e).result = .ok (o.1, { o.2 with
        servers := (d.servers.ofOperation e.operation.value e.item.value doc.root p.catalog).1 }) := by
      unfold attempt
      rw [hrun]
    obtain ⟨hresolved, hparameters⟩ := hx.2 hc
    exact ⟨_, hr, describes_attempt hr, hresolved, hparameters⟩

end Draft

/-- What the slot stands for was classified. -/
def Progress.Done (doc : Document) (p : Progress) (slot : Path) : Prop :=
  ∃ t id, doc.resolve slot = .ok (some t) ∧ p.memo.get? t.path = some (.done id)

theorem Progress.Extends.done {doc : Document} {p p' : Progress} {slot : Path} (hx : p.Extends p')
    (h : p.Done doc slot) : p'.Done doc slot := by
  obtain ⟨t, id, ht, hd⟩ := h
  exact ⟨t, id, ht, hx.entry _ _ hd⟩

namespace Classify

variable {doc : Document} {α β : Type} {x : Classify α} {slots slots' : List Path}

/-- A step that goes on whatever comes of its parts, and after which all these slots are done if no
error was reported. -/
def Covers (doc : Document) (slots : List Path) (x : Classify α) : Prop :=
  ∀ p : Progress, p.Coherent doc [] → p.Accounted → ∃ a p', x p = .ok a p' ∧
    p.Leads doc [] p' ∧ p.Notes p' ∧ (p'.Clean → ∀ slot ∈ slots, p'.Done doc slot)

theorem Covers.pure {a : α} : Covers doc [] (Pure.pure a : Classify α) :=
  fun p h ha => ⟨a, p, rfl, h.leads, ha.refl_notes, fun _ _ hm => (List.not_mem_nil hm).elim⟩

theorem Covers.next {y : Classify β} (hx : Covers doc slots x) (hy : Covers doc slots' y) :
    Covers doc (slots ++ slots') (x >>= fun _ => y) := by
  intro p h ha
  obtain ⟨a, p₁, hrun, hl, hn, hdone⟩ := hx p h ha
  obtain ⟨b, p₂, hrun', hl', hn', hdone'⟩ := hy p₁ hl.coherent hn.accounted
  refine ⟨b, p₂, (run_bind_ok hrun).trans hrun', hl.trans hl', hn.trans hn', fun hc slot hm => ?_⟩
  rcases List.mem_append.mp hm with hm | hm
  · exact hl'.toExtends.done (hdone (hn'.clean hc) slot hm)
  · exact hdone' hc slot hm

theorem covers_nothing {Q : α → Prop} {R : α → Progress → Prop}
    (he : ∀ p : Progress, p.Coherent doc [] → Ensures doc [] p x R False)
    (hd : Discloses x Q fun _ => False) : Covers doc [] x := by
  intro p h ha
  have hl := he p h
  have hn := hd p ha
  unfold Ensures at hl
  cases hrun : x p with
  | ok a p' =>
    rw [hrun] at hl hn
    exact ⟨a, p', rfl, hl.1, hn.1, fun _ _ hm => (List.not_mem_nil hm).elim⟩
  | error r p' =>
    rw [hrun] at hn
    exact hn.2.2.elim

theorem covers_attempt_classifySlot {slot : Path} (hd : (doc.at? slot).isSome) (fallback : String) :
    Covers doc [slot] (attempt (classifySlot doc slot fallback)) := by
  intro p h ha
  have hs : Ensures doc [] p (classifySlot doc slot fallback) (ShowsSlot doc slot) True :=
    ensures_visitSlot (classifies_classify doc) h slot fallback fun _ => trivial
  have hx := @discloses_classifySlot doc slot fallback p ha
  unfold Ensures at hs
  unfold attempt
  cases hrun : classifySlot doc slot fallback p with
  | error r p' =>
    rw [hrun] at hs hx
    exact ⟨none, p', rfl, hs.1, hx.1, fun hc => absurd hc hx.2.1⟩
  | ok id? p' =>
    rw [hrun] at hs hx
    refine ⟨some id?, p', rfl, hs.1, hx.1, fun _ => ?_⟩
    rw [List.forall_mem_singleton]
    cases id? with
    | none => exact absurd hs.2 (Document.resolve_ne_none hd)
    | some id =>
      obtain ⟨t, ht, hid⟩ := hs.2
      exact ⟨t, id, ht, hs.1.coherent.idOf?_eq_some_iff_done.mp hid⟩

theorem covers_classifyAll {entries : List (String × Path)}
    (hd : ∀ e ∈ entries, (doc.at? e.2).isSome) :
    Covers doc (entries.map (·.2)) (classifyAll doc entries) := by
  induction entries with
  | nil => exact .pure
  | cons entry entries ih =>
    rw [List.forall_mem_cons] at hd
    rw [classifyAll_cons]
    exact (covers_attempt_classifySlot hd.1 _).next (ih hd.2)

theorem covers_classifyComponents :
    Covers doc ((doc.entries ["components", "schemas"] ++ doc.entries ["definitions"]).map (·.2))
      (classifyComponents doc) := by
  rw [List.map_append]
  have hcarried : Covers doc [] (classifyCarried doc
      (carriers.flatMap fun key => doc.entries ["components", key])) :=
    covers_nothing (fun p h => ensures_classifyCarried h _) (discloses_classifyCarried _)
  exact hcarried.next ((covers_classifyAll fun _ => Document.isSome_at?_of_mem_entries).next
    (covers_classifyAll fun _ => Document.isSome_at?_of_mem_entries))

end Classify

/-! ### The run -/

namespace Document

/-- Nothing of the document is missing from the model. -/
structure Complete (doc : Document) (options : Options) (m : Model) : Prop where
  /-- Every path stands for a path item, and all that is there for a method for an operation. -/
  paths : ∀ e ∈ doc.entries ["paths"], (doc.node? e.2).isSome
  methods : ∀ i ∈ doc.pathItems (doc.entries ["paths"]), ∀ method,
    (doc.at? (i.2.slot (Method.text method))).isSome →
      (doc.node? (i.2.slot (Method.text method))).isSome
  /-- Each operation that the walk comes to is listed once, with all parameters. -/
  once : (doc.endpoints.map (·.operation.path)).Nodup
  operations : ∃ os : List (String × Operation), m.groups.operations.Perm (os.map (·.2)) ∧
    List.Forall₂ (fun e o => e.Describes options.separator o ∧
      Classify.HasDeclared doc e.item e.operation o.2) doc.endpoints os
  /-- The schemas of components were classified, and are among those of the model. -/
  components : options.components →
    ∀ e ∈ doc.entries ["components", "schemas"] ++ doc.entries ["definitions"],
      ∃ t id, doc.resolve e.2 = .ok (some t) ∧
        (doc.fullDraft options).progress.memo.get? t.path = some (.done id) ∧
        (m.catalog.get? id).isSome

variable {doc : Document} {options : Options}

theorem coherent_draft (doc : Document) (options : Options) :
    (doc.draft options).progress.Coherent doc [] := by
  obtain ⟨steps, hsteps⟩ := doc.draft_eq_after options
  rw [hsteps]
  exact (doc.sound_after steps).coherent

theorem notes_fullDraft (doc : Document) (options : Options) :
    (doc.draft options).progress.Notes (doc.fullDraft options).progress := by
  have ha := (doc.lists_draft options).accounted
  rw [fullDraft_eq]
  split
  · have hx : Classify.Discloses (Classify.classifyComponents doc) _ Classify.BelowOperation :=
      Classify.discloses_classifyComponents
    exact hx.notes_after ha
  · exact ha.refl_notes

theorem done_of_clean (hcomponents : options.components)
    (hshape : doc.isMisshapen "components" = false)
    (hc : (doc.fullDraft options).progress.Clean) :
    ∀ e ∈ doc.entries ["components", "schemas"] ++ doc.entries ["definitions"],
      (doc.fullDraft options).progress.Done doc e.2 := by
  obtain ⟨_, p, hrun, -, -, hdone⟩ := Classify.covers_classifyComponents _
    (doc.coherent_draft options) (doc.lists_draft options).accounted
  have hp : (doc.fullDraft options).progress = p := by
    rw [fullDraft_eq, hcomponents, hshape]
    show Classify.after (Classify.classifyComponents doc) (doc.draft options).progress = p
    rw [Classify.after, hrun]
  rw [hp] at hc ⊢
  exact List.forall_mem_map.mp (hdone hc)

/-- The endpoint of each attempt is that of an operation that was added. -/
theorem forall₂_addedBy {P : Endpoint → String × Operation → Prop} {as : List Attempt}
    (h : ∀ a ∈ as, ∃ o, a.result = .ok o ∧ P a.endpoint o) :
    List.Forall₂ P (as.map (·.endpoint)) (addedBy as) := by
  induction as with
  | nil => exact .nil
  | cons a as ih =>
    obtain ⟨⟨o, ho, hP⟩, has⟩ := List.forall_mem_cons.mp h
    rw [addedBy_cons, Attempt.added?_eq_some_iff.mpr ho]
    exact .cons hP (ih has)

/-- If no error was reported, nothing of the document is missing from its model. -/
theorem complete_of_no_errors (doc : Document) (options : Options) (m : Model)
    (h : (doc.model options).result = .ok m)
    (herrors : Diagnostic.errorCount (doc.model options).diagnostics = 0) :
    doc.Complete options m := by
  obtain ⟨hfailure, hshape, rfl⟩ := result_eq_ok_iff.mp h
  have hclean : (doc.fullDraft options).progress.Clean := by
    rwa [diagnostics_of_failure?_eq_none hfailure] at herrors
  have hdraft : (doc.draft options).progress.Clean := (doc.notes_fullDraft options).clean hclean
  have hresolved := resolve_ne_error_of_pathVisits (Draft.code?_of_clean .initial hdraft)
  have hadded : ∀ a ∈ doc.attempts options, ∃ o, a.result = .ok o ∧
      a.endpoint.Describes options.separator o ∧
      Classify.HasDeclared doc a.endpoint.item a.endpoint.operation o.2 := by
    intro a ha
    obtain ⟨before, after, hs⟩ := List.append_of_mem ha
    obtain ⟨d, hd, had, hn⟩ := exists_draft_of_attempts hs
    rw [had]
    exact Draft.added_of_clean hd.accounted (hn.clean hdraft)
  constructor
  case paths =>
    intro e he
    exact isSome_node? (isSome_at?_of_mem_entries he) (hresolved.1 e he)
  case methods =>
    intro i hi method hd
    exact isSome_node? hd (hresolved.2 i (by rwa [fresh_nil]) method)
  case once => exact nodup_map_firsts ..
  case operations =>
    refine ⟨addedBy (doc.attempts options), ?_, ?_⟩
    · rw [modelOf, groups_fullDraft, (doc.lists_draft options).groups]
      exact Groups.operations_gather_perm _
    · rw [← doc.endpoints_attempts options]
      exact forall₂_addedBy hadded
  case components =>
    intro hcomponents e he
    rw [hcomponents, Bool.true_and] at hshape
    obtain ⟨t, id, ht, hd⟩ := done_of_clean hcomponents hshape hclean e he
    obtain ⟨steps, hsteps⟩ := doc.fullDraft_eq_after options
    have hcoherent := (doc.sound_after steps).coherent
    rw [← hsteps] at hcoherent
    exact ⟨t, id, ht, hd, hcoherent.isSome_of_done hd⟩

/-- A parameter that a path item and its operation declare, a body, and a schema with two names. -/
def withTrees : Document where
  root := .obj [
    ("paths", .obj [("/trees", .obj [
      ("parameters", .arr [.obj [("name", .str "id"), ("in", .str "header"),
        ("schema", .obj [("type", .str "string")])]]),
      ("put", .obj [("operationId", .str "Tree_Put"), ("parameters", .arr [
        .obj [("name", .str "depth"), ("in", .str "query"),
          ("schema", .obj [("type", .str "integer")])],
        .obj [("name", .str "id"), ("in", .str "header"),
          ("schema", .obj [("type", .str "string"), ("format", .str "uuid")])],
        .obj [("name", .str "tree"), ("in", .str "body"),
          ("schema", .obj [("$ref", .str "#/definitions/Tree")])]])])])]),
    ("components", .obj [("schemas", .obj [("Plant", .obj [("$ref", .str "#/definitions/Tree")])])]),
    ("definitions", .obj [("Tree", .obj [("properties", .obj [
      ("children", .obj [("type", .str "array"),
        ("items", .obj [("$ref", .str "#/definitions/Tree")])])])])])]

theorem complete_of_no_errors_withTrees :
    (withTrees.model {}).result = .ok (withTrees.modelOf (withTrees.fullDraft {})) ∧
      Diagnostic.errorCount (withTrees.model {}).diagnostics = 0 ∧
      (withTrees.modelOf (withTrees.fullDraft {})).groups.operations.map
        (fun op => op.parameters.map (·.name)) = [["id", "depth"]] ∧
      withTrees.Complete {} (withTrees.modelOf (withTrees.fullDraft {})) := by
  have hrun : (withTrees.model {}).result = .ok (withTrees.modelOf (withTrees.fullDraft {})) :=
    result_eq_ok_iff.mpr ⟨by decide +kernel, by decide +kernel, rfl⟩
  have herrors : Diagnostic.errorCount (withTrees.model {}).diagnostics = 0 := by decide +kernel
  exact ⟨hrun, herrors, by decide +kernel, complete_of_no_errors withTrees {} _ hrun herrors⟩

end Document

end ApiModel

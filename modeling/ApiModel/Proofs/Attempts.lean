import ApiModel.Proofs.Disclosure
import ApiModel.Proofs.Groups

/-!
# What comes of each operation

`Document.attempts` is a run seen from its operations: each endpoint that the walk comes to, with the
cause for which it was rejected or with what was added to the model. `Lists` says of a draft which
operations were added so far, in which order; every attempt is made with a draft that lists those of
the earlier ones (`exists_draft_of_attempts`), and so it is with the groups at the end.
-/

namespace ApiModel

structure Attempt where
  endpoint : Endpoint
  /-- Why the operation was rejected, or its group and the operation. -/
  result : Except Rejection (String × Operation)

def Attempt.added? (a : Attempt) : Option (String × Operation) := a.result.toOption

theorem Attempt.added?_eq_some_iff {a : Attempt} {o : String × Operation} :
    a.added? = some o ↔ a.result = .ok o := by
  unfold added?
  cases a.result <;> simp [Except.toOption]

theorem Attempt.added?_of_error {a : Attempt} {r : Rejection} (h : a.result = .error r) :
    a.added? = none := by
  rw [added?, h]
  rfl

/-- The operations that were added by attempts. -/
def addedBy (as : List Attempt) : List (String × Operation) := as.filterMap (·.added?)

theorem addedBy_cons (a : Attempt) (as : List Attempt) :
    addedBy (a :: as) = a.added?.toList ++ addedBy as := by
  cases h : a.added? <;> simp [addedBy, h]

theorem addedBy_append_singleton (as : List Attempt) (a : Attempt) :
    addedBy (as ++ [a]) = addedBy as ++ a.added?.toList := by
  cases h : a.added? <;> simp [addedBy, h]

namespace Draft

/-- What comes of an endpoint that is reached with this draft. -/
def attempt (doc : Document) (separator : Char) (d : Draft) (e : Endpoint) : Attempt where
  endpoint := e
  result :=
    match Classify.buildOperation doc separator d.groups e.method e.key e.item e.operation
      d.progress with
    | .error r _ => .error r
    | .ok (group, op) p => .ok (group, { op with
        servers := (d.servers.ofOperation e.operation.value e.item.value doc.root p.catalog).1 })

/-- The draft after that. -/
def attempted (doc : Document) (separator : Char) (d : Draft) (e : Endpoint) : Draft :=
  (addOperation doc separator e.method e.key e.item e.operation d).2

/-- What comes of the operations of visits that were not seen before. -/
def attempts (doc : Document) (separator : Char) :
    List Visit → Memo Path Unit → Draft → List Attempt
  | [], _, _ => []
  | v :: visits, seen, d =>
    let (seen', d') := visit doc separator seen v d
    let rest := attempts doc separator visits seen' d'
    match v with
    | .unresolved _ _ => rest
    | .operation method key item operation =>
      if seen.contains operation.path then rest
      else d.attempt doc separator ⟨method, key, item, operation⟩ :: rest

end Draft

/-- What a run does with the operations of a document. -/
def Document.attempts (doc : Document) (options : Options) : List Attempt :=
  Draft.attempts doc options.separator doc.visits {} {}

/-- The identity under which an operation was added. -/
def identityOf (o : String × Operation) : Identity := ⟨o.1, o.2.name⟩

/-- The operation says of the endpoint what a reader looks it up by. -/
structure Endpoint.Describes (separator : Char) (e : Endpoint) (o : String × Operation) : Prop where
  identity : identityOf o = e.identity separator
  method : o.2.method = e.method
  path : o.2.path = e.path

theorem Groups.find?_gather_identity {added : List (String × Operation)} {i : Identity} :
    ((Groups.gather added).find? i.group i.member).isSome ↔ ∃ o ∈ added, identityOf o = i := by
  obtain ⟨group, member⟩ := i
  simp [Groups.find?_gather, identityOf]

namespace Classify

variable {doc : Document} {separator : Char} {groups : Groups} {e : Endpoint}
  {o : String × Operation} {p q : Progress}

/-- An operation that is built describes its endpoint, and its identity was free. -/
theorem describes_of_buildOperation
    (h : buildOperation doc separator groups e.method e.key e.item e.operation p = .ok o q) :
    e.Describes separator o ∧
      ¬ (groups.find? (e.identity separator).group (e.identity separator).member).isSome := by
  have hid : ∀ {found : Identity × List Diagnostic}, Identity.ofOperation e.method e.key
      e.operation.value e.operation.pointer separator = found → e.identity separator = found.1 :=
    fun hf => congrArg Prod.fst hf
  unfold buildOperation at h
  dsimp only at h
  generalize hfound : Identity.ofOperation e.method e.key e.operation.value e.operation.pointer
    separator = found at h
  obtain ⟨identity, said⟩ := found
  rw [hid hfound]
  obtain ⟨_, _, -, h⟩ := exists_of_bind_eq_ok h
  dsimp only at h
  split at h
  · cases h
  · rename_i hfree
    refine ⟨?_, hfree⟩
    obtain ⟨merged, _, -, h⟩ := exists_of_bind_eq_ok h
    obtain ⟨parameters, _, -, h⟩ := exists_of_bind_eq_ok h
    obtain ⟨request?, _, -, h⟩ := exists_of_bind_eq_ok h
    cases request? with
    | some request =>
      cases h
      exact ⟨(hid hfound).symm, rfl, rfl⟩
    | none =>
      obtain ⟨request, _, -, h⟩ := exists_of_bind_eq_ok h
      cases h
      exact ⟨(hid hfound).symm, rfl, rfl⟩

end Classify

namespace Draft

variable {doc : Document} {separator : Char} {d : Draft} {added : List (String × Operation)}
  {e : Endpoint}

/-- These operations were added to the draft, in this order, and nothing was left out unsaid. -/
structure Lists (added : List (String × Operation)) (d : Draft) : Prop where
  accounted : d.progress.Accounted
  groups : d.groups = Groups.gather added
  distinct : (added.map identityOf).Nodup

theorem describes_attempt {o : String × Operation}
    (ho : (d.attempt doc separator e).result = .ok o) : e.Describes separator o := by
  unfold attempt at ho
  dsimp only at ho
  split at ho
  · cases ho
  · rename_i group op p hrun
    cases ho
    obtain ⟨⟨hi, hm, hp⟩, -⟩ := Classify.describes_of_buildOperation hrun
    exact ⟨hi, hm, hp⟩

namespace Lists

theorem initial : Lists [] {} := ⟨.initial, rfl, .nil⟩

theorem progress (h : d.Lists added) {p : Progress} (hn : d.progress.Notes p) :
    Lists added { d with progress := p } :=
  ⟨hn.accounted, h.groups, h.distinct⟩

theorem duplicate_attempt (h : d.Lists added) (doc : Document) (separator : Char) (e : Endpoint) :
    (∃ group member, (d.attempt doc separator e).result =
      .error (.duplicateOperation group member)) ↔
        ∃ o ∈ added, identityOf o = e.identity separator := by
  have hx := @Classify.discloses_buildOperation doc separator d.groups e _ h.accounted
  rw [← Groups.find?_gather_identity, ← h.groups]
  unfold attempt
  dsimp only
  cases hrun : Classify.buildOperation doc separator d.groups e.method e.key e.item e.operation
    d.progress with
  | error r p =>
    rw [hrun] at hx
    have hr : r.code? = some .duplicateOperation ↔ _ := hx.2.2
    rw [← hr, Rejection.code?_eq_duplicate_iff]
    simp
  | ok o p =>
    exact iff_of_false (by simp) (Classify.describes_of_buildOperation hrun).2

theorem groups_attempted (h : d.Lists added) :
    (d.attempted doc separator e).groups =
      Groups.gather (added ++ (d.attempt doc separator e).added?.toList) := by
  unfold Draft.attempted Draft.addOperation attempt
  cases hrun : Classify.buildOperation doc separator d.groups e.method e.key e.item e.operation
    d.progress with
  | error r p => simpa [Attempt.added?, Except.toOption] using h.groups
  | ok o p =>
    obtain ⟨⟨hi, -, -⟩, hfree⟩ := Classify.describes_of_buildOperation hrun
    rw [← hi, h.groups] at hfree
    have hadd : ∀ servers, (Groups.gather added).add? o.1 { o.2 with servers } =
        some (Groups.gather (added ++ [(o.1, { o.2 with servers })])) :=
      fun servers => Groups.add?_gather hfree
    simp [Attempt.added?, Except.toOption, place, h.groups, hadd]

theorem identity_not_mem {o : String × Operation} (h : d.Lists added)
    (ho : (d.attempt doc separator e).result = .ok o) : identityOf o ∉ added.map identityOf := by
  intro hm
  obtain ⟨o', ho', hi⟩ := List.mem_map.mp hm
  obtain ⟨group, member, herr⟩ := (h.duplicate_attempt doc separator e).mpr
    ⟨o', ho', hi.trans (describes_attempt ho).identity⟩
  rw [ho] at herr
  cases herr

theorem attempted (h : d.Lists added) (doc : Document) (separator : Char) (e : Endpoint) :
    (d.attempted doc separator e).Lists (added ++ (d.attempt doc separator e).added?.toList) where
  accounted := (notes_addOperation h.accounted separator e.method e.key e.item e.operation).accounted
  groups := h.groups_attempted
  distinct := by
    cases ho : (d.attempt doc separator e).result with
    | error r => simpa [Attempt.added?_of_error ho] using h.distinct
    | ok o =>
      rw [Attempt.added?_eq_some_iff.mpr ho, Option.toList_some, List.map_append]
      refine List.Nodup.append h.distinct (List.nodup_singleton _) ?_
      rw [List.map_singleton, List.disjoint_singleton]
      exact h.identity_not_mem ho

end Lists

/-! ### A walk -/

section

variable {seen : Memo Path Unit} {method : Method} {key : String} {item operation : Fragment}
  {visits : List Visit}

theorem attempts_of_seen (h : seen.contains operation.path) :
    attempts doc separator (.operation method key item operation :: visits) seen d =
      attempts doc separator visits seen d := by
  obtain ⟨entry, he⟩ := Option.isSome_iff_exists.mp h
  simp only [attempts, visit_of_seen he, h, if_true]

theorem attempts_of_new {seen' : Memo Path Unit} (h : ¬ seen.contains operation.path)
    (hv : visit doc separator seen (.operation method key item operation) d =
      (seen', d.attempted doc separator ⟨method, key, item, operation⟩)) :
    attempts doc separator (.operation method key item operation :: visits) seen d =
      d.attempt doc separator ⟨method, key, item, operation⟩ :: attempts doc separator visits seen'
        (d.attempted doc separator ⟨method, key, item, operation⟩) := by
  simp only [attempts, hv, h, if_false, Bool.false_eq_true]

/-- The endpoints of a walk are those of the visits, each operation once, those seen left out. -/
theorem map_endpoint_attempts (visits : List Visit) {paths : List Path}
    (hs : ∀ path, seen.contains path ↔ path ∈ paths) :
    (attempts doc separator visits seen d).map (·.endpoint) =
      fresh (·.operation.path) paths
        (firsts (·.operation.path) (visits.filterMap Visit.endpoint?)) := by
  induction visits generalizing seen d paths with
  | nil => rfl
  | cons v visits ih =>
    cases v with
    | unresolved r source => exact ih hs
    | operation method key item operation =>
      have hcons : (Visit.operation method key item operation :: visits).filterMap Visit.endpoint? =
          ⟨method, key, item, operation⟩ :: visits.filterMap Visit.endpoint? := rfl
      rw [hcons, fresh_firsts_cons]
      by_cases hseen : seen.contains operation.path
      · rw [attempts_of_seen hseen, if_pos ((hs _).mp hseen)]
        exact ih hs
      · have hnone : seen.get? operation.path = none := by simpa [Memo.contains] using hseen
        obtain ⟨entry, hv⟩ := @visit_of_new doc d separator _ method key item _ hnone
        rw [attempts_of_new hseen hv, if_neg (mt (hs _).mpr hseen), List.map_cons]
        congr 1
        refine ih fun path => ?_
        rw [Memo.contains, Memo.get?_set, List.mem_cons, ← hs path, Memo.contains]
        by_cases hp : operation.path = path <;> simp [hp, eq_comm (a := path)]

end

/-- A walk from a draft to another, by what comes of its operations. -/
inductive Walk (doc : Document) (separator : Char) : Draft → List Attempt → Draft → Prop
  | done (d : Draft) : Walk doc separator d [] d
  | unresolved {d last : Draft} {attempts : List Attempt} {r : Rejection} (source : String)
      (hr : r.code? = some .unresolvedReference)
      (h : Walk doc separator
        { d with progress := (r.diagnostics source).foldl Progress.report d.progress } attempts last) :
      Walk doc separator d attempts last
  | attempt {d last : Draft} {attempts : List Attempt} (e : Endpoint)
      (h : Walk doc separator (d.attempted doc separator e) attempts last) :
      Walk doc separator d (d.attempt doc separator e :: attempts) last

/-- The program walks from its first draft to its last by the attempts that it makes. -/
theorem walk_visitAll (visits : List Visit)
    (hv : ∀ r source, .unresolved r source ∈ visits → r.code? = some .unresolvedReference)
    (seen : Memo Path Unit) (d : Draft) :
    Walk doc separator d (attempts doc separator visits seen d)
      (visitAll doc separator visits seen d).2 := by
  induction visits generalizing seen d with
  | nil => exact .done d
  | cons v visits ih =>
    have ih := ih fun r source hm => hv r source (List.mem_cons_of_mem _ hm)
    have hall : (visitAll doc separator (v :: visits) seen d).2 =
        (visitAll doc separator visits (visit doc separator seen v d).1
          (visit doc separator seen v d).2).2 := rfl
    rw [hall]
    cases v with
    | unresolved r source => exact .unresolved source (hv r source (List.mem_cons_self ..)) (ih _ _)
    | operation method key item operation =>
      by_cases hseen : seen.contains operation.path
      · obtain ⟨entry, he⟩ := Option.isSome_iff_exists.mp hseen
        rw [attempts_of_seen hseen, visit_of_seen he]
        exact ih seen d
      · have hnone : seen.get? operation.path = none := by simpa [Memo.contains] using hseen
        obtain ⟨entry, hv⟩ := @visit_of_new doc d separator _ method key item _ hnone
        rw [attempts_of_new hseen hv, hv]
        exact .attempt _ (ih _ _)

namespace Walk

variable {last : Draft} {as before after : List Attempt} {a : Attempt}

theorem notes (hw : Walk doc separator d as last) (h : d.progress.Accounted) :
    d.progress.Notes last.progress := by
  induction hw with
  | done d => exact h.refl_notes
  | @unresolved d _ _ r source _ _ ih =>
    have hn := h.notes_reports (r.diagnostics source)
    exact hn.trans (ih hn.accounted)
  | attempt e _ ih =>
    have hn := @notes_addOperation doc _ h separator e.method e.key e.item e.operation
    exact hn.trans (ih hn.accounted)

theorem lists (hw : Walk doc separator d as last) (h : d.Lists added) :
    last.Lists (added ++ addedBy as) := by
  induction hw generalizing added with
  | done d => simpa [addedBy] using h
  | unresolved _ _ _ ih => exact ih (h.progress (h.accounted.notes_reports _))
  | attempt e _ ih =>
    rw [addedBy_cons, ← List.append_assoc]
    exact ih (h.attempted doc separator e)

/-- Each attempt is made with a draft that lists what was added by the earlier ones. -/
theorem exists_draft (hw : Walk doc separator d (before ++ a :: after) last) (h : d.Lists added) :
    ∃ d' : Draft, d'.Lists (added ++ addedBy before) ∧
      a = d'.attempt doc separator a.endpoint ∧
      (d'.attempted doc separator a.endpoint).progress.Notes last.progress := by
  generalize has : before ++ a :: after = as at hw
  induction hw generalizing added before with
  | done d => simp at has
  | unresolved _ _ _ ih => exact ih (h.progress (h.accounted.notes_reports _)) has
  | @attempt d _ as e hw ih =>
    have h' := h.attempted doc separator e
    cases before with
    | nil =>
      obtain ⟨rfl, rfl⟩ := List.cons.inj has
      exact ⟨d, by simpa [addedBy] using h, rfl, hw.notes h'.accounted⟩
    | cons b before =>
      obtain ⟨rfl, hrest⟩ := List.cons.inj has
      rw [addedBy_cons, ← List.append_assoc]
      exact ih h' hrest

end Walk

end Draft

namespace Document

/-- A visit that leads to no operation is one whose reference has no end. -/
theorem code?_of_visits {doc : Document} (r : Rejection) (source : String)
    (h : .unresolved r source ∈ doc.visits) : r.code? = some .unresolvedReference := by
  have hitem : ∀ {key item}, .unresolved r source ∈ doc.itemVisits key item →
      r.code? = some .unresolvedReference := by
    intro key item hm
    obtain ⟨method, -, hv⟩ := List.mem_filterMap.mp hm
    split at hv
    · rename_i hres
      cases hv
      exact code?_of_resolve hres
    · cases hv
    · cases hv
  have hpaths : ∀ entries seen, .unresolved r source ∈ doc.pathVisits entries seen →
      r.code? = some .unresolvedReference := by
    intro entries
    induction entries with
    | nil => exact fun _ hm => by cases hm
    | cons entry entries ih =>
      intro seen hm
      rw [pathVisits_cons] at hm
      split at hm
      · rename_i hres
        rcases List.mem_cons.mp hm with he | hm
        · cases he
          exact code?_of_resolve hres
        · exact ih seen hm
      · exact ih seen hm
      · split at hm
        · exact ih seen hm
        · exact (List.mem_append.mp hm).elim hitem (ih _)
  exact hpaths _ _ h

theorem walk_draft (doc : Document) (options : Options) :
    Draft.Walk doc options.separator {} (doc.attempts options) (doc.draft options) :=
  Draft.walk_visitAll doc.visits code?_of_visits {} {}

theorem lists_draft (doc : Document) (options : Options) :
    (doc.draft options).Lists (addedBy (doc.attempts options)) :=
  (doc.walk_draft options).lists .initial

theorem exists_draft_of_attempts {doc : Document} {options : Options}
    {before after : List Attempt} {a : Attempt} (hs : doc.attempts options = before ++ a :: after) :
    ∃ d : Draft, d.Lists (addedBy before) ∧ a = d.attempt doc options.separator a.endpoint ∧
      (d.attempted doc options.separator a.endpoint).progress.Notes (doc.draft options).progress := by
  have hw := doc.walk_draft options
  rw [hs] at hw
  exact hw.exists_draft .initial

theorem endpoints_attempts (doc : Document) (options : Options) :
    (doc.attempts options).map (·.endpoint) = doc.endpoints := by
  have hseen : ∀ path, ({} : Memo Path Unit).contains path ↔ path ∈ ([] : List Path) := fun path => by
    simp [Memo.contains, Memo.get?, Assoc.get?]
  rw [attempts, Draft.map_endpoint_attempts doc.visits hseen, endpoints_visits, fresh_nil]

/-- Components add no operations. -/
theorem groups_fullDraft (doc : Document) (options : Options) :
    (doc.fullDraft options).groups = (doc.draft options).groups := by
  rw [fullDraft_eq]
  split <;> rfl

/-- Nor do they add servers. -/
theorem servers_fullDraft (doc : Document) (options : Options) :
    (doc.fullDraft options).servers = (doc.draft options).servers := by
  rw [fullDraft_eq]
  split <;> rfl

end Document

end ApiModel

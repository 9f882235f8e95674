import ApiModel.Proofs.PreservedRuns

/-!
# Operations with distinct ids

An id is divided at its first separator; the group is empty if there is none, and also if the id starts
with it. So two ids are divided alike exactly if they are the same, or one of them is the separator
followed by the other and the other has no separator (`Identity.split_eq_split_iff`). Operations whose
ids are told apart in this way have distinct identities, and none is taken for a duplicate of another.
-/

namespace ApiModel

namespace Split

variable {sep : Char} {as bs : List Char}

/-- What stands before and after the first separator; nothing before, if there is none. -/
def halves (sep : Char) (cs : List Char) : List Char × List Char := (once? sep cs).getD ([], cs)

theorem halves_of_notMem (h : sep ∉ as) : halves sep as = ([], as) := by
  rw [halves, once?_eq_none_iff.mpr h]
  rfl

theorem halves_cons_self (sep : Char) (cs : List Char) : halves sep (sep :: cs) = ([], cs) := by
  simp [halves, once?]

theorem eq_of_halves (h : sep ∈ as) : as = (halves sep as).1 ++ sep :: (halves sep as).2 := by
  cases hs : once? sep as with
  | none => exact absurd h (once?_eq_none_iff.mp hs)
  | some parts =>
    obtain ⟨before, after⟩ := parts
    rw [halves, hs]
    exact (eq_of_once? hs).1

theorem halves_eq_halves_iff : halves sep as = halves sep bs ↔
    as = bs ∨ (sep ∉ as ∧ bs = sep :: as) ∨ (sep ∉ bs ∧ as = sep :: bs) := by
  constructor
  · intro h
    by_cases ha : sep ∈ as <;> by_cases hb : sep ∈ bs
    · exact .inl (by rw [eq_of_halves ha, eq_of_halves hb, h])
    · rw [halves_of_notMem hb] at h
      exact .inr (.inr ⟨hb, by rw [eq_of_halves ha, h]; rfl⟩)
    · rw [halves_of_notMem ha] at h
      exact .inr (.inl ⟨ha, by rw [eq_of_halves hb, ← h]; rfl⟩)
    · rw [halves_of_notMem ha, halves_of_notMem hb] at h
      exact .inl (congrArg Prod.snd h)
  · rintro (rfl | ⟨ha, rfl⟩ | ⟨hb, rfl⟩)
    · rfl
    · rw [halves_of_notMem ha, halves_cons_self]
    · rw [halves_of_notMem hb, halves_cons_self]

end Split

namespace Identity

theorem split_eq_halves (id : String) (c : Char) :
    split id c = ⟨String.ofList (Split.halves c id.toList).1,
      String.ofList (Split.halves c id.toList).2⟩ := by
  unfold split Split.halves
  cases Split.once? c id.toList with
  | none => simp
  | some parts => rfl

/-- Two ids are divided alike exactly if they are the same or differ by a separator at the front that
is the only one. -/
theorem split_eq_split_iff {a b : String} {c : Char} : split a c = split b c ↔
    a = b ∨ (c ∉ a.toList ∧ b = String.ofList (c :: a.toList)) ∨
      (c ∉ b.toList ∧ a = String.ofList (c :: b.toList)) := by
  have heq : ∀ {s : String} {cs : List Char}, s.toList = cs ↔ s = String.ofList cs := by
    intro s cs
    constructor
    · rintro rfl; simp
    · rintro rfl; simp
  have hsplit : split a c = split b c ↔ Split.halves c a.toList = Split.halves c b.toList := by
    rw [split_eq_halves, split_eq_halves, Identity.mk.injEq, Prod.ext_iff]
    simp [String.ofList_inj]
  rw [hsplit, Split.halves_eq_halves_iff, heq (s := a), heq (s := a), heq (s := b), String.ofList_toList]

end Identity

/-- Nothing was reported to have the identity of another operation. -/
def Progress.Undisputed (p : Progress) : Prop :=
  ∀ d ∈ p.diagnostics.toList, d.code ≠ .duplicateOperation

theorem Progress.Undisputed.report {p : Progress} (h : p.Undisputed) {d : Diagnostic}
    (hd : d.code ≠ .duplicateOperation) : (p.report d).Undisputed := by
  intro d' hm
  rw [Progress.report, Array.toList_push] at hm
  rcases List.mem_append.mp hm with hm | hm
  · exact h d' hm
  · rwa [List.mem_singleton.mp hm]

namespace Classify

open Progress (Undisputed)

variable {doc : Document} {visit : Classifier}

theorem ignoresSchemas_undisputed : IgnoresSchemas Undisputed := by
  intro p q _ _ hd h
  unfold Undisputed
  rwa [hd]

theorem agreeing_undisputed (hv : ∀ name f, doc.Holds f → Preserves Undisputed (visit name f)) :
    Agreeing doc Undisputed visit visit where
  report p d hd h := h.report (by rw [hd]; decide)
  any := ignoresSchemas_undisputed.admits.anySchema
  visit name f hf := (hv name f hf).agree

theorem undisputed_classify (doc : Document) (name : String) {f : Fragment} (hf : doc.Holds f) :
    Preserves Undisputed (classify doc name f) := by
  refine preserves_classifyWithin_of_build (I := fun _ : Unit => Undisputed)
    (fun visit name f _ hv _ p h _ => ?_) [] () name hf
  have hsay : ∀ (p : Progress) (d : Diagnostic), d.code.isOfSchema → p.Undisputed →
      (p.report d).Undisputed :=
    fun p d hd h => h.report fun he => by rw [he] at hd; cases hd
  have hbuilt : (after (build doc visit name f) (p.begin f.path)).Undisputed :=
    (agree_build ignoresSchemas_undisputed.admits hsay (agreeing_undisputed (hv ())) name).preserves _ h
  exact after_inSlot hbuilt (fun _ _ _ h => h) fun _ _ h => h

theorem preservingSlots_undisputed (doc : Document) : PreservingSlots doc Undisputed :=
  ignoresSchemas_undisputed.preservingSlots
    (fun _ _ hd h => h.report fun he => by rw [he] at hd; cases hd) fun slot fallback =>
      (agree_visitSlot (agreeing_undisputed fun name _ hg => undisputed_classify doc name hg) slot
        fallback).preserves

end Classify

namespace Draft

variable {doc : Document} {separator : Char} {d last : Draft} {as : List Attempt}
  {added : List (String × Operation)}

/-- Where the operations added so far and the endpoints to come all have identities of their own,
nothing is taken for a duplicate. -/
theorem Walk.undisputed (hw : Walk doc separator d as last) (hl : d.Lists added)
    (hn : (added.map identityOf ++ as.map (·.endpoint.identity separator)).Nodup)
    (h : d.progress.Undisputed) :
    last.progress.Undisputed ∧
      ∀ a ∈ as, ∀ group member, a.result ≠ .error (.duplicateOperation group member) := by
  induction hw generalizing added with
  | done d => exact ⟨h, fun a ha => by cases ha⟩
  | unresolved source hr _ ih =>
    exact ih (hl.progress (hl.accounted.notes_reports _)) hn
      ((Classify.preservingSlots_undisputed doc).rejection hr rfl source _ h)
  | @attempt d _ as e _ ih =>
    have hfree : ¬ ∃ o ∈ added, identityOf o = e.identity separator := by
      rintro ⟨o, ho, he⟩
      exact List.disjoint_of_nodup_append hn (List.mem_map_of_mem ho) (he ▸ List.mem_cons_self ..)
    have htaken : ¬ (d.groups.find? (e.identity separator).group
        (e.identity separator).member).isSome := by
      rwa [hl.groups, Groups.find?_gather_identity]
    have hsub : ((added ++ (d.attempt doc separator e).added?.toList).map identityOf ++
        as.map (·.endpoint.identity separator)).Nodup := by
      cases hr : (d.attempt doc separator e).result with
      | error r =>
        rw [Attempt.added?_of_error hr, Option.toList_none, List.append_nil]
        exact hn.sublist ((List.sublist_cons_self ..).append_left _)
      | ok o =>
        have hid : identityOf o = e.identity separator := (describes_attempt hr).identity
        rw [Attempt.added?_eq_some_iff.mpr hr, Option.toList_some, List.map_append, List.map_singleton,
          hid, List.append_assoc]
        exact hn
    obtain ⟨hlast, hrest⟩ := ih (hl.attempted doc separator e) hsub
      ((Classify.preservingSlots_undisputed doc).attempted h fun ht => absurd ht htaken)
    refine ⟨hlast, List.forall_mem_cons.mpr ⟨fun group member hr => ?_, hrest⟩⟩
    exact hfree ((hl.duplicate_attempt doc separator e).mp ⟨group, member, hr⟩)

end Draft

namespace Document

/-- The ids that the operations of a document declare. -/
def operationIds (doc : Document) : List String :=
  doc.endpoints.filterMap fun e => Identity.declared? e.operation.value

/-- All operations declare ids, and no two the same. -/
structure DistinctIds (doc : Document) : Prop where
  declared : ∀ e ∈ doc.endpoints, (Identity.declared? e.operation.value).isSome
  distinct : doc.operationIds.Nodup

/-- No operation is reported or left out because another has its identity. -/
structure KeepsApart (doc : Document) (options : Options) : Prop where
  reported : ∀ d ∈ (doc.model options).diagnostics, d.code ≠ .duplicateOperation
  dropped : ∀ a ∈ doc.attempts options, ∀ group member,
    a.result ≠ .error (.duplicateOperation group member)

theorem map_identity_endpoints {doc : Document} (h : doc.DistinctIds) (separator : Char) :
    doc.endpoints.map (·.identity separator) = doc.operationIds.map (Identity.split · separator) := by
  obtain ⟨hdeclared, -⟩ := h
  unfold operationIds
  generalize doc.endpoints = es at hdeclared ⊢
  induction es with
  | nil => rfl
  | cons e es ih =>
    obtain ⟨he, hes⟩ := List.forall_mem_cons.mp hdeclared
    obtain ⟨id, hid⟩ := Option.isSome_iff_exists.mp he
    have hsplit : e.identity separator = Identity.split id separator := by
      simp only [Endpoint.identity, Identity.ofOperation, hid]
    rw [List.map_cons, ih hes, List.filterMap_cons_some (by exact hid), List.map_cons, hsplit]

/-- Operations have different identities if none of their ids is the separator followed by one that has
no separator. -/
theorem nodup_identities {doc : Document} (h : doc.DistinctIds) {separator : Char}
    (hs : ∀ id ∈ doc.operationIds, separator ∉ id.toList →
      String.ofList (separator :: id.toList) ∉ doc.operationIds) :
    (doc.endpoints.map (·.identity separator)).Nodup := by
  rw [map_identity_endpoints h]
  refine List.Nodup.map_on (fun a ha b hb he => ?_) h.distinct
  rcases Identity.split_eq_split_iff.mp he with heq | ⟨hfree, rfl⟩ | ⟨hfree, rfl⟩
  · exact heq
  · exact absurd hb (hs a ha hfree)
  · exact absurd ha (hs b hb hfree)

/-- Operations whose ids are different, and not only by a separator at the front, are kept apart. -/
theorem keepsApart_of_distinctIds (doc : Document) (options : Options) (h : doc.DistinctIds)
    (hs : ∀ id ∈ doc.operationIds, options.separator ∉ id.toList →
      String.ofList (options.separator :: id.toList) ∉ doc.operationIds) :
    doc.KeepsApart options := by
  have hn : (([] : List (String × Operation)).map identityOf ++
      (doc.attempts options).map (·.endpoint.identity options.separator)).Nodup := by
    have hmap : (doc.attempts options).map (·.endpoint.identity options.separator) =
        doc.endpoints.map (·.identity options.separator) := by
      rw [← doc.endpoints_attempts options, List.map_map]
      rfl
    rw [hmap]
    exact nodup_identities h hs
  have hinit : Progress.Undisputed {} := fun d hd => by cases hd
  obtain ⟨hdraft, hdropped⟩ := (doc.walk_draft options).undisputed .initial hn hinit
  refine ⟨?_, hdropped⟩
  cases hfailure : doc.failure? with
  | some failure =>
    have hnone : (doc.model options).diagnostics = [] := by
      unfold model
      rw [hfailure]
    rw [hnone]
    exact fun d hd => by cases hd
  | none =>
    rw [diagnostics_of_failure?_eq_none hfailure]
    exact (Classify.preservingSlots_undisputed doc).fullDraft hdraft

/-- Ids without a separator, with one in the middle, at the end, at the front, and with nothing else. -/
def withSeparators : Document where
  root := .obj [("paths", .obj [
    ("/a", .obj [("get", .obj [("operationId", .str "List")]),
      ("post", .obj [("operationId", .str "List_")]),
      ("put", .obj [("operationId", .str "List_List")])]),
    ("/b", .obj [("get", .obj [("operationId", .str "_")]),
      ("post", .obj [("operationId", .str "__")]),
      ("put", .obj [("operationId", .str "_Make")])])])]

theorem keepsApart_withSeparators :
    withSeparators.DistinctIds ∧
      (∀ id ∈ withSeparators.operationIds, '_' ∉ id.toList →
        String.ofList ('_' :: id.toList) ∉ withSeparators.operationIds) ∧
      withSeparators.operationIds = ["List", "List_", "List_List", "_", "__", "_Make"] ∧
      withSeparators.KeepsApart {} := by
  have hd : withSeparators.DistinctIds := ⟨by decide +kernel, by decide +kernel⟩
  have hs : ∀ id ∈ withSeparators.operationIds, '_' ∉ id.toList →
      String.ofList ('_' :: id.toList) ∉ withSeparators.operationIds := by decide +kernel
  exact ⟨hd, hs, by decide +kernel, keepsApart_of_distinctIds withSeparators {} hd hs⟩

/-- Two operations whose ids differ by a separator at the front. -/
def withFrontSeparator : Document where
  root := .obj [("paths", .obj [
    ("/a", .obj [("get", .obj [("operationId", .str "List")])]),
    ("/b", .obj [("get", .obj [("operationId", .str "_List")])])])]

/-- Different ids alone do not keep operations apart. -/
theorem not_keepsApart_withFrontSeparator :
    withFrontSeparator.DistinctIds ∧ ¬ withFrontSeparator.KeepsApart {} := by
  refine ⟨⟨by decide +kernel, by decide +kernel⟩, fun h => ?_⟩
  have hsaid : ⟨.error, .duplicateOperation, "operation 'List' already exists in group ''",
      "#/paths/~1b/get"⟩ ∈ (withFrontSeparator.model {}).diagnostics := by decide +kernel
  exact h.reported _ hsaid rfl

end Document

end ApiModel

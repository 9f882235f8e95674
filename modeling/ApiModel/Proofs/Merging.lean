import ApiModel.Proofs.ServerList

/-!
# The parameters of an operation

Of the parameters that are declared with one name and place the last counts, at the place of the first
(`mergeParameters_eq`), and each that is left is built by itself: whether it can be built, and what it
then says, depends on its node alone (`builds_alone`). So the parameters of an operation are known from
the document without a run: `Document.regularParameters`, each as it is if nothing else is looked at.

What is built at different times differs in the ids of schemas, so parameters are compared without them.
-/

namespace ApiModel

theorem Classify.mergeParameters_eq (fs : List Fragment) :
    mergeParameters fs = (firsts id (fs.map (·.value.parameterKey))).filterMap fun key =>
      fs.reverse.find? fun f => f.value.parameterKey = key := by
  have hkeys : ((fs.map fun f => (f.value.parameterKey, f)).map (·.1)) =
      fs.map (·.value.parameterKey) := by
    rw [List.map_map]
    rfl
  have hnodup := nodup_map_firsts id (fs.map (·.value.parameterKey))
  rw [List.map_id, ← hkeys, ← Assoc.map_fst_ofList] at hnodup
  unfold mergeParameters
  rw [Assoc.map_snd_eq_filterMap hnodup, Assoc.map_fst_ofList, hkeys]
  refine List.filterMap_congr fun key _ => ?_
  rw [Assoc.get?_ofList, ← List.map_reverse, List.find?_map, Option.map_map]
  exact congrFun Option.map_id _

theorem Classify.nodup_keys_mergeParameters (fs : List Fragment) :
    ((mergeParameters fs).map (·.value.parameterKey)).Nodup := by
  rw [keys_mergeParameters, ← List.map_id (firsts id _)]
  exact nodup_map_firsts id _

/-- All of a parameter but the id of its schema. -/
def Parameter.withoutSchema (a : Parameter) : Parameter := { a with schema := ⟨0⟩ }

namespace Document

variable {doc : Document} {f : Fragment}

/-- The slot stands for a node that has a schema. -/
def HasSchema (doc : Document) (slot : Path) : Prop :=
  ∃ t, doc.resolve slot = .ok (some t) ∧ ¬ doc.ReachesInvalid t.toFragment

/-- The parameter that a node makes, said without a run: its name and place are known, and there is a
schema for it. -/
def Makes (doc : Document) (f : Fragment) (a : Parameter) : Prop :=
  ∃ name location slot, Classify.nameAndLocation? f.value = some (name, location) ∧
    Classify.parameterSlot? doc f = some slot ∧ doc.HasSchema slot ∧
    a.withoutSchema = Classify.parameterOf f.value name location ⟨0⟩

theorem Makes.unique {a b : Parameter} (h : doc.Makes f a) (h' : doc.Makes f b) :
    a.withoutSchema = b.withoutSchema := by
  obtain ⟨name, location, _, hfound, -, -, ha⟩ := h
  obtain ⟨name', location', _, hfound', -, -, hb⟩ := h'
  cases hfound.symm.trans hfound'
  rw [ha, hb]

/-- What a node makes if it is the first that is looked at. -/
def parameterAlone? (doc : Document) (f : Fragment) : Option Parameter :=
  ((Classify.buildParameter doc f).run' {}).map (·.withoutSchema)

end Document

namespace Classify

open Document (HasSchema Makes)

variable {doc : Document} {p : Progress} {E : Prop}

theorem ensures_classifySlot_hasSchema (h : p.Coherent doc []) (slot : Path) (fallback : String) :
    Ensures doc [] p (classifySlot doc slot fallback) (fun id? _ => id?.isSome ↔ doc.HasSchema slot)
      (¬ doc.HasSchema slot) := by
  have hfails : doc.SlotFails slot → ¬ doc.HasSchema slot := by
    rintro (⟨r, hr⟩ | ⟨t, ht, hi⟩) ⟨t', ht', hn⟩
    · cases hr.symm.trans ht'
    · cases ht.symm.trans ht'
      exact hn hi
  refine (ensures_visitSlot (classifies_classify doc) h slot fallback hfails).mono ?_ id
  rintro (- | id) p' hl hs
  · have hnone : doc.resolve slot = .ok none := hs
    refine iff_of_false (by simp) ?_
    rintro ⟨t, ht, -⟩
    cases hnone.symm.trans ht
  · obtain ⟨t, ht, hid⟩ := hs
    have hd := hl.coherent.idOf?_eq_some_iff_done.mp hid
    exact iff_of_true rfl
      ⟨t, ht, hl.coherent.not_reachesInvalid_of_done (Document.holds_of_resolve ht) hd⟩

theorem ensures_buildParameter_makes (h : p.Coherent doc []) (f : Fragment) :
    Ensures doc [] p (buildParameter doc f) (fun a _ => doc.Makes f a) (∀ a, ¬ doc.Makes f a) := by
  unfold buildParameter
  cases hfound : nameAndLocation? f.value with
  | none =>
    refine ensures_reject h _ _ ?_
    rintro a ⟨_, _, _, hsome, -⟩
    cases hfound.symm.trans hsome
  | some found =>
    obtain ⟨name, location⟩ := found
    dsimp only
    cases hslot : parameterSlot? doc f with
    | none =>
      rw [pure_bind]
      refine ensures_reject h _ _ ?_
      rintro a ⟨_, _, _, -, hsome, -⟩
      cases hslot.symm.trans hsome
    | some slot =>
      have hnone : ¬ doc.HasSchema slot → ∀ a, ¬ doc.Makes f a := by
        rintro hn a ⟨_, _, slot', -, hsome, hs, -⟩
        cases hslot.symm.trans hsome
        exact hn hs
      have hx := (ensures_classifySlot_hasSchema h slot name).monoError hnone
      refine hx.bind fun schema? p' hl hs => ?_
      cases schema? with
      | none => exact ensures_reject hl.coherent _ _ (hnone fun hn => by simpa using hs.mpr hn)
      | some schema => exact .pure hl.coherent ⟨name, location, slot, hfound, hslot, hs.mp rfl, rfl⟩

/-- What a step comes to, whatever it leaves behind. -/
theorem Ensures.run' {α : Type} {stack : List Path} {x : Classify α} {Q : α → Prop}
    (hx : Ensures doc stack p x (fun a _ => Q a) E) :
    (∃ a, x.run' p = some a ∧ Q a) ∨ x.run' p = none ∧ E := by
  unfold Ensures at hx
  unfold EStateM.run' EStateM.run
  cases hrun : x p with
  | ok a p' => rw [hrun] at hx; exact .inl ⟨a, rfl, hx.2⟩
  | error r p' => rw [hrun] at hx; exact .inr ⟨rfl, hx.2⟩

/-- What a parameter comes to does not depend on what was looked at before. -/
theorem builds_alone (h : p.Coherent doc []) (f : Fragment) :
    ((buildParameter doc f).run' p).map (·.withoutSchema) = doc.parameterAlone? f := by
  unfold Document.parameterAlone?
  rcases (ensures_buildParameter_makes h f).run' with ⟨a, ha, hmakes⟩ | ⟨hnone, hn⟩
  · rcases (ensures_buildParameter_makes .initial f).run' with ⟨b, hb, hmakes'⟩ | ⟨-, hn'⟩
    · rw [ha, hb]
      exact congrArg some (hmakes.unique hmakes')
    · exact absurd hmakes (hn' a)
  · rcases (ensures_buildParameter_makes .initial f).run' with ⟨b, -, hmakes'⟩ | ⟨hnone', -⟩
    · exact absurd hmakes' (hn b)
    · rw [hnone, hnone']

theorem makes_of_parameterAlone? {f : Fragment} {a : Parameter}
    (h : doc.parameterAlone? f = some a) :
    ∃ name location, nameAndLocation? f.value = some (name, location) ∧
      a = parameterOf f.value name location ⟨0⟩ := by
  obtain ⟨b, hb, rfl⟩ := Option.map_eq_some_iff.mp h
  rcases (ensures_buildParameter_makes .initial f).run' with ⟨c, hc, hmakes⟩ | ⟨hnone, -⟩
  · cases hb.symm.trans hc
    obtain ⟨name, location, _, hfound, -, -, heq⟩ := hmakes
    exact ⟨name, location, hfound, heq⟩
  · cases hb.symm.trans hnone

/-! ### All parameters of an operation -/

theorem ensures_buildParameters_alone (h : p.Coherent doc []) (fs : List Fragment) :
    Ensures doc [] p (buildParameters doc fs)
      (fun as _ => as.map (·.withoutSchema) = fs.filterMap doc.parameterAlone?) E := by
  induction fs generalizing p with
  | nil => exact .pure h rfl
  | cons f fs ih =>
    have hone : Ensures doc [] p (attempt (buildParameter doc f))
        (fun a? _ => a?.map (·.withoutSchema) = doc.parameterAlone? f) E := by
      have hx := ensures_buildParameter h f
      have hfirst := builds_alone h f
      unfold Ensures at hx
      unfold EStateM.run' EStateM.run at hfirst
      unfold Ensures attempt
      cases hrun : buildParameter doc f p with
      | ok a p' | error r p' => rw [hrun] at hx hfirst; exact ⟨hx.1, hfirst⟩
    unfold buildParameters
    refine hone.bind fun a? p₁ hl₁ ha => (ih hl₁.coherent).bind fun as p₂ hl₂ has => ?_
    refine .pure hl₂.coherent ?_
    rw [List.map_append, has, List.filterMap_cons, ← ha]
    cases a? <;> rfl

end Classify

namespace Document

/-- The declared parameters that do not describe the request body: one for each name and place, in the
order in which these first come, and of those with one name and place the last. -/
def regularParameters (doc : Document) (item operation : Fragment) : List Fragment :=
  ((doc.parameterKeys item operation).filterMap fun key =>
    (doc.declaredParameters item operation).reverse.find? fun f => f.value.parameterKey = key).filter
      fun f => !f.value.isBodyPart

/-- The parameters of the operation are those that are declared and can be built, each as it is if
nothing else is looked at. -/
def HasMerged (doc : Document) (item operation : Fragment) (op : Operation) : Prop :=
  op.parameters.map (·.withoutSchema) =
    (doc.regularParameters item operation).filterMap doc.parameterAlone?

variable {doc : Document} {item operation : Fragment}

theorem regularParameters_eq (doc : Document) (item operation : Fragment) :
    doc.regularParameters item operation =
      (Classify.mergeParameters (doc.declaredParameters item operation)).filter
        fun f => !f.value.isBodyPart := by
  rw [Classify.mergeParameters_eq]
  rfl

theorem nodup_keys_regularParameters (doc : Document) (item operation : Fragment) :
    ((doc.regularParameters item operation).map (·.value.parameterKey)).Nodup := by
  rw [regularParameters_eq]
  exact (Classify.nodup_keys_mergeParameters _).sublist (List.filter_sublist.map _)

end Document

namespace Classify

variable {doc : Document} {p : Progress} {E : Prop}

theorem ensures_buildOperation_hasMerged (h : p.Coherent doc []) (separator : Char) (groups : Groups)
    (method : Method) (key : String) (item operation : Fragment) :
    Ensures doc [] p (buildOperation doc separator groups method key item operation)
      (fun o _ => doc.HasMerged item operation o.2) True := by
  unfold buildOperation
  dsimp only
  generalize Identity.ofOperation method key operation.value operation.pointer separator = found
  obtain ⟨identity, said⟩ := found
  refine (ensures_forM_report h said).bind fun _ p₁ hl₁ _ => ?_
  split
  · exact ensures_reject hl₁.coherent _ _ trivial
  · refine (ensures_mergedParameters hl₁.coherent item operation).bind fun merged p₂ hl₂ hmerged => ?_
    refine (ensures_buildParameters_alone hl₂.coherent _).bind fun parameters p₃ hl₃ hparams => ?_
    rw [List.partition_eq_filter_filter] at hparams
    -- Whatever becomes of the request, the operation takes the parameters as they are.
    have hop : ∀ op : Operation, op.parameters = parameters → doc.HasMerged item operation op := by
      rintro op rfl
      rw [Document.HasMerged, Document.regularParameters_eq, ← hmerged]
      exact hparams
    refine (ensures_buildRequest hl₃.coherent identity operation).bind fun r? p₄ hl₄ _ => ?_
    cases r? with
    | some r =>
      dsimp only
      rw [pure_bind]
      exact .pure hl₄.coherent (hop _ rfl)
    | none =>
      refine (ensures_buildPartsRequest hl₄.coherent identity _ _).bind fun r? p₅ hl₅ _ => ?_
      exact .pure hl₅.coherent (hop _ rfl)

end Classify

/-- No two parameters of the operation have one name and place, and each travels where a parameter may
and is required where it must be. -/
structure Operation.Addressable (op : Operation) : Prop where
  distinct : (op.parameters.map fun a => (a.name, a.location)).Nodup
  outside : ∀ a ∈ op.parameters, a.location ≠ .body
  named : ∀ a ∈ op.parameters, a.name ≠ ""
  required : ∀ a ∈ op.parameters, a.location = .path → a.required

theorem sublist_map_filterMap {α β κ : Type} {g : α → Option β} {k : α → κ} {k' : β → κ} {as : List α}
    (h : ∀ a ∈ as, ∀ b, g a = some b → k' b = k a) :
    ((as.filterMap g).map k').Sublist (as.map k) := by
  induction as with
  | nil => exact .slnil
  | cons a as ih =>
    obtain ⟨ha, has⟩ := List.forall_mem_cons.mp h
    cases hg : g a with
    | none =>
      rw [List.filterMap_cons_none hg]
      exact .cons _ (ih has)
    | some b =>
      rw [List.filterMap_cons_some hg, List.map_cons, List.map_cons, ha b hg]
      exact .cons_cons _ (ih has)

namespace Document

variable {doc : Document} {item operation : Fragment} {op : Operation}

theorem key_of_parameterAlone? {f : Fragment} (hf : f.value.isBodyPart = false) {a : Parameter}
    (ha : doc.parameterAlone? f = some a) :
    (a.name, a.location.text) = f.value.parameterKey ∧ a.location ≠ .body := by
  obtain ⟨name, location, hfound, rfl⟩ := Classify.makes_of_parameterAlone? ha
  obtain ⟨hname, hplace⟩ := Classify.hasKey_of_nameAndLocation? hfound ⟨0⟩
  rw [Json.isBodyPart_eq, isBodyKey] at hf
  have hbody : f.value.parameterKey.2 ≠ "body" ∧ f.value.parameterKey.2 ≠ "formData" := by
    simpa using hf
  obtain ⟨htext, hne⟩ := Location.text_of_parse? hplace hbody
  exact ⟨Prod.ext hname htext, hne⟩

theorem HasMerged.addressable (h : doc.HasMerged item operation op) : op.Addressable := by
  have hmem : ∀ a ∈ op.parameters, ∃ f ∈ doc.regularParameters item operation,
      doc.parameterAlone? f = some a.withoutSchema := by
    intro a ha
    have hm : a.withoutSchema ∈ op.parameters.map (·.withoutSchema) := List.mem_map_of_mem ha
    rw [h] at hm
    exact List.mem_filterMap.mp hm
  have hregular : ∀ f ∈ doc.regularParameters item operation, f.value.isBodyPart = false := by
    intro f hf
    simpa using (List.mem_filter.mp hf).2
  refine ⟨?distinct, fun a ha => ?outside, fun a ha => ?named, fun a ha hpath => ?required⟩
  case distinct =>
    -- What a node makes has the key of the node, and leaving some out keeps keys distinct.
    have hsub : (((doc.regularParameters item operation).filterMap doc.parameterAlone?).map
        fun a => (a.name, a.location.text)).Sublist
          ((doc.regularParameters item operation).map (·.value.parameterKey)) :=
      sublist_map_filterMap fun f hf a ha => (key_of_parameterAlone? (hregular f hf) ha).1
    have hkeys := (doc.nodup_keys_regularParameters item operation).sublist hsub
    rw [← h, List.map_map] at hkeys
    refine List.Nodup.of_map (fun k : String × Location => (k.1, k.2.text)) ?_
    rw [List.map_map]
    exact hkeys
  case outside =>
    obtain ⟨f, hf, hfa⟩ := hmem a ha
    exact (key_of_parameterAlone? (hregular f hf) hfa).2
  case named =>
    obtain ⟨f, -, hfa⟩ := hmem a ha
    obtain ⟨name, location, hfound, he⟩ := Classify.makes_of_parameterAlone? hfa
    have hname : a.name = name := congrArg (·.name) he
    rw [hname]
    exact (Classify.nameAndLocation?_eq_some_iff.mp hfound).2.1
  case required =>
    obtain ⟨f, -, hfa⟩ := hmem a ha
    obtain ⟨name, location, -, he⟩ := Classify.makes_of_parameterAlone? hfa
    have hloc : a.location = location := congrArg (·.location) he
    have hreq : a.required = (decide (location = .path) || f.value.flag "required") :=
      congrArg (·.required) he
    rw [hreq, ← hloc, hpath]
    rfl

end Document

theorem Draft.Walk.hasMerged {doc : Document} {separator : Char} {d last : Draft} {as : List Attempt}
    (hw : Walk doc separator d as last) (h : d.Sound doc) :
    ∀ a ∈ as, ∀ o, a.result = .ok o → doc.HasMerged a.endpoint.item a.endpoint.operation o.2 := by
  induction hw with
  | done d => exact fun a ha => by cases ha
  | unresolved _ _ _ ih => exact ih (h.progress (Classify.leads_reports h.coherent _))
  | @attempt d _ _ e _ ih =>
    refine List.forall_mem_cons.mpr ⟨fun o ho => ?_,
      ih (h.addOperation separator e.method e.key e.item e.operation)⟩
    have hx := Classify.ensures_buildOperation_hasMerged h.coherent separator d.groups e.method e.key
      e.item e.operation
    unfold Classify.Ensures at hx
    unfold Draft.attempt at ho
    dsimp only at ho
    split at ho
    · cases ho
    · rename_i hrun
      cases ho
      rw [hrun] at hx
      exact hx.2

namespace Document

/-- The parameters of operations are known from the document. -/
structure MergesParameters (doc : Document) : Prop where
  /-- Whether a parameter is kept and what it says, the id of its schema aside, is the same after any
  steps as before all of them. -/
  alone : ∀ (steps : List (Step doc)) (f : Fragment),
    ((Classify.buildParameter doc f).run' (doc.after steps).progress).map (·.withoutSchema) =
      doc.parameterAlone? f
  /-- An operation that is built after any steps has those that are declared for it. -/
  built : ∀ (steps : List (Step doc)) (separator : Char) (groups : Groups) (e : Endpoint)
    (o : String × Operation), (Classify.buildOperation doc separator groups e.method e.key e.item
      e.operation).run' (doc.after steps).progress = some o → doc.HasMerged e.item e.operation o.2
  /-- So has every operation of a model. -/
  modeled : ∀ (options : Options) (m : Model), (doc.model options).result = .ok m →
    ∀ g ∈ m.groups, ∀ op ∈ g.operations, ∃ e ∈ doc.endpoints,
      e.Describes options.separator (g.name, op) ∧ doc.HasMerged e.item e.operation op
  addressable : ∀ (options : Options) (m : Model), (doc.model options).result = .ok m →
    ∀ op ∈ m.groups.operations, op.Addressable

/-- Every operation of a model comes from an attempt at an endpoint. -/
theorem exists_attempt_of_mem {doc : Document} {options : Options} {m : Model}
    (h : (doc.model options).result = .ok m) {g : Group} (hg : g ∈ m.groups) {op : Operation}
    (hop : op ∈ g.operations) : ∃ a ∈ doc.attempts options, a.result = .ok (g.name, op) ∧
      a.endpoint ∈ doc.endpoints ∧ a.endpoint.Describes options.separator (g.name, op) := by
  have hadded : (g.name, op) ∈ addedBy (doc.attempts options) :=
    (mem_added_iff h).mpr ⟨g, hg, rfl, hop⟩
  obtain ⟨a, ha, hres⟩ := mem_addedBy.mp hadded
  refine ⟨a, ha, hres, ?_, ?_⟩
  · rw [← doc.endpoints_attempts options]
    exact List.mem_map_of_mem ha
  · obtain ⟨before, after, hs⟩ := List.append_of_mem ha
    obtain ⟨d, -, hd, -⟩ := exists_draft_of_attempts hs
    rw [hd] at hres
    exact Draft.describes_attempt hres

theorem exists_endpoint_of_mem {doc : Document} {options : Options} {m : Model}
    (h : (doc.model options).result = .ok m) {g : Group} (hg : g ∈ m.groups) {op : Operation}
    (hop : op ∈ g.operations) : ∃ e ∈ doc.endpoints,
      e.Describes options.separator (g.name, op) ∧ doc.HasMerged e.item e.operation op := by
  obtain ⟨a, ha, hres, hmem, hdescribes⟩ := exists_attempt_of_mem h hg hop
  exact ⟨a.endpoint, hmem, hdescribes, (doc.walk_draft options).hasMerged .initial a ha _ hres⟩

theorem merges_parameters (doc : Document) : doc.MergesParameters where
  alone steps f := Classify.builds_alone (doc.sound_after steps).coherent f
  built steps separator groups e o ho := by
    have hx := Classify.ensures_buildOperation_hasMerged (doc.sound_after steps).coherent separator groups
      e.method e.key e.item e.operation
    rcases hx.run' with ⟨o', ho', hmerged⟩ | ⟨hnone, -⟩
    · cases ho.symm.trans ho'
      exact hmerged
    · cases ho.symm.trans hnone
  modeled _ _ h _ hg _ hop := exists_endpoint_of_mem h hg hop
  addressable options m h op hop := by
    obtain ⟨g, hg, hop⟩ := List.mem_flatMap.mp hop
    obtain ⟨e, -, -, hmerged⟩ := exists_endpoint_of_mem h hg hop
    exact hmerged.addressable

end Document

end ApiModel

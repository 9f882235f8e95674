import ApiModel.Modeling.Components
import ApiModel.Modeling.Paths
import ApiModel.Proofs.Classification
import ApiModel.Proofs.Walk

/-!
# What modeling ensures

Between the nodes of a document nothing is in progress, so a slot that a parameter or a request gets
is filled, and stays so: later steps only extend the catalog. Each step that reads a part of an
operation ensures that the ids in its result are of filled slots; servers take slots for the schemas
of their variables and leave the others as they are.
-/

namespace ApiModel

/-- The id of the schema in a request. -/
def Request.schema (r : Request) : SchemaId :=
  match r.body with
  | .parameter p => p.schema
  | .stream schema => schema

/-- The ids of schemas in an operation. -/
def Operation.schemaIds (op : Operation) : List SchemaId :=
  op.parameters.map (·.schema) ++ (op.request.map (·.schema)).toList

/-- The ids of schemas in a server. -/
def Server.schemaIds (s : Server) : List SchemaId := s.urlVariables.map (·.schema)

namespace Progress

variable {p p' : Progress}

/-- The slots of all these ids are filled. -/
def Fulfils (p : Progress) (ids : List SchemaId) : Prop := ∀ id ∈ ids, (p.catalog.get? id).isSome

theorem Fulfils.nil : p.Fulfils [] := fun _ h => by cases h

theorem Fulfils.append {ids ids' : List SchemaId} (h : p.Fulfils ids) (h' : p.Fulfils ids') :
    p.Fulfils (ids ++ ids') := by
  intro id hid
  rcases List.mem_append.mp hid with hid | hid
  · exact h id hid
  · exact h' id hid

theorem Extends.fulfils (hx : p.Extends p') {ids : List SchemaId} (h : p.Fulfils ids) :
    p'.Fulfils ids :=
  fun id hid => hx.isSome_get? (h id hid)

end Progress

namespace Classify

open Progress (Coherent Fulfils)

variable {doc : Document} {p : Progress} {α : Type} {x : Classify α} {Q : α → Progress → Prop}
  {E E' : Prop}

theorem ensures_attempt {stack : List Path} (hx : Ensures doc stack p x Q E) :
    Ensures doc stack p (attempt x) (fun a? p' => ∀ a ∈ a?, Q a p') E' := by
  unfold Ensures at hx
  unfold Ensures attempt
  cases hrun : x p with
  | ok a p' =>
    rw [hrun] at hx
    exact ⟨hx.1, fun b hb => by cases hb; exact hx.2⟩
  | error r p' =>
    rw [hrun] at hx
    exact ⟨hx.1, fun b hb => by cases hb⟩

theorem ensures_classifySlot (h : p.Coherent doc []) (slot : Path) (fallback : String) :
    Ensures doc [] p (classifySlot doc slot fallback) (fun id? p' => p'.Fulfils id?.toList) True := by
  refine (ensures_visitSlot (classifies_classify doc) h slot fallback fun _ => trivial).mono ?_ id
  rintro (- | id) p' hl hs
  · exact .nil
  · intro id' hid
    rw [List.mem_singleton.mp hid]
    exact hl.coherent.isSome_of_fills (hl.coherent.fills_of_shows hs)

/-- The schema of a parameter is that of the node which its schema slot stands for. -/
theorem ensures_buildParameter_shows (h : p.Coherent doc []) (f : Fragment) :
    Ensures doc [] p (buildParameter doc f) (fun a p' => ∃ slot, parameterSlot? doc f = some slot ∧
      p'.directory.Shows doc slot a.schema) True := by
  unfold buildParameter
  split
  · exact ensures_reject h _ _ trivial
  · rename_i name location _
    cases hslot : parameterSlot? doc f with
    | none => exact ensures_reject h _ _ trivial
    | some slot =>
      have hx := ensures_visitSlot (E := True) (classifies_classify doc) h slot name fun _ => trivial
      refine hx.bind fun id? p' hl hs => ?_
      cases id? with
      | none => exact ensures_reject hl.coherent _ _ trivial
      | some id => exact .pure hl.coherent ⟨slot, rfl, hs⟩

theorem ensures_buildParameter (h : p.Coherent doc []) (f : Fragment) :
    Ensures doc [] p (buildParameter doc f) (fun a p' => p'.Fulfils [a.schema]) True := by
  refine (ensures_buildParameter_shows h f).mono (fun a p' hl ha => ?_) id
  obtain ⟨slot, -, hs⟩ := ha
  intro id hid
  rw [List.mem_singleton.mp hid]
  exact hl.coherent.isSome_of_fills (hl.coherent.fills_of_shows hs)

theorem ensures_buildParameters (h : p.Coherent doc []) (fs : List Fragment) :
    Ensures doc [] p (buildParameters doc fs) (fun ps p' => p'.Fulfils (ps.map (·.schema))) E := by
  induction fs generalizing p with
  | nil => exact .pure h .nil
  | cons f fs ih =>
    unfold buildParameters
    refine (ensures_attempt (ensures_buildParameter h f)).bind fun a? p₁ hl₁ ha => ?_
    refine (ih hl₁.coherent).bind fun ps p₂ hl₂ hps => ?_
    refine .pure hl₂.coherent ?_
    cases a? with
    | none => exact hps
    | some a => exact (hl₂.fulfils (ha a rfl)).append hps

/-- The parameters are what the slots stand for, those left out that stand for nothing. -/
theorem ensures_resolveParameters (h : p.Coherent doc []) (slots : List Path) :
    Ensures doc [] p (resolveParameters doc slots) (fun fs _ => fs = slots.filterMap doc.node?) E := by
  induction slots generalizing p with
  | nil => exact .pure h rfl
  | cons slot slots ih =>
    have rest : ∀ (found : Option Fragment) (p' : Progress), p'.Coherent doc [] →
        found = doc.node? slot →
          Ensures doc [] p' (resolveParameters doc slots >>= fun rest => pure (found.toList ++ rest))
            (fun fs _ => fs = (slot :: slots).filterMap doc.node?) E := by
      rintro found p' h' rfl
      refine (ih h').bind fun fs _ hl hfs => .pure hl.coherent ?_
      cases hn : doc.node? slot <;> simp [hn, hfs]
    unfold resolveParameters
    dsimp only
    split
    · rename_i r hr
      have hrej : Ensures doc [] p (reject r (Pointer.ofPath slot) : Classify Fragment)
          (fun _ _ => False) True := ensures_reject h _ _ trivial
      refine (ensures_attempt hrej).bind fun found p' hl hf => rest found p' hl.coherent ?_
      rw [Document.node?_of_error hr]
      exact Option.eq_none_iff_forall_not_mem.mpr hf
    · rename_i target ht
      rw [pure_bind]
      refine rest _ p h ?_
      cases target with
      | none => exact (Document.node?_of_none ht).symm
      | some t => exact (Document.node?_of_some ht).symm

theorem ensures_mergedParameters (h : p.Coherent doc []) (item operation : Fragment) :
    Ensures doc [] p (mergedParameters doc item operation)
      (fun fs _ => fs = mergeParameters (doc.declaredParameters item operation)) E :=
  (ensures_resolveParameters h _).bind fun _ _ hl hfs => .pure hl.coherent (congrArg _ hfs)

theorem ensures_isStream (h : p.Coherent doc []) (id : SchemaId) :
    Ensures doc [] p (isStream id) (fun b p' => b = p'.catalog.isStream id) E :=
  (ensures_get h).bind fun _ _ hl hq => .pure hl.coherent (by rw [hq])

theorem ensures_buildRequest (h : p.Coherent doc []) (identity : Identity) (operation : Fragment) :
    Ensures doc [] p (buildRequest doc identity operation)
      (fun r? p' => p'.Fulfils (r?.map (·.schema)).toList) True := by
  unfold buildRequest
  split
  · exact ensures_reject h _ _ trivial
  · exact .pure h .nil
  · split
    · exact .pure h .nil
    · dsimp only
      refine (ensures_classifySlot h _ _).bind fun id? p₁ hl₁ hid => ?_
      cases id? with
      | none => exact ensures_reject hl₁.coherent _ _ trivial
      | some id =>
        refine (ensures_isStream hl₁.coherent id).bind fun b p₂ hl₂ _ => ?_
        cases b with
        | true => exact .pure hl₂.coherent (hl₂.fulfils hid)
        | false => exact .pure hl₂.coherent (hl₂.fulfils hid)
    · exact ensures_reject h _ _ trivial

theorem ensures_buildBodyRequest (h : p.Coherent doc []) (operation : Json) (body : Fragment) :
    Ensures doc [] p (buildBodyRequest doc operation body) (fun r p' => p'.Fulfils [r.schema])
      True := by
  unfold buildBodyRequest
  refine (ensures_buildParameter h body).bind fun a p₁ hl₁ ha => ?_
  refine (ensures_isStream hl₁.coherent a.schema).bind fun b p₂ hl₂ _ => ?_
  cases b with
  | true => exact .pure hl₂.coherent (hl₂.fulfils ha)
  | false => exact .pure hl₂.coherent (hl₂.fulfils ha)

theorem ensures_buildFields (h : p.Coherent doc []) (fs : List Fragment) :
    Ensures doc [] p (buildFields doc fs) (fun ps p' => p'.Fulfils (ps.map (·.schema))) True := by
  induction fs generalizing p with
  | nil => exact .pure h .nil
  | cons f fs ih =>
    unfold buildFields
    refine (ensures_buildParameter h f).bind fun a p₁ hl₁ ha => ?_
    refine (ih hl₁.coherent).bind fun ps p₂ hl₂ hps => ?_
    exact .pure hl₂.coherent ((hl₂.fulfils ha).append hps)

theorem ensures_buildFormRequest (h : p.Coherent doc []) (identity : Identity) (operation : Json)
    (parts : List Fragment) :
    Ensures doc [] p (buildFormRequest doc identity operation parts)
      (fun r p' => p'.Fulfils [r.schema]) True := by
  unfold buildFormRequest
  refine (ensures_buildFields h parts).bind fun fields p₁ hl₁ hfields => ?_
  refine (ensures_get hl₁.coherent).bind fun q p₂ hl₂ hq => ?_
  subst hq
  dsimp only
  have gathered : ∀ mediaType, Ensures doc [] q
      (addSchema (.undescribed (identity.joined ++ "Body")
        (.object (fields.map fieldProperty) none none)) >>= fun schema =>
          pure (⟨mediaType, .parameter (formParameter operation fields schema)⟩ : Request))
      (fun r p' => p'.Fulfils [r.schema]) True := by
    intro mediaType
    have hrefs : ∀ r ∈ (fields.map fieldProperty).map (·.schema), q.Fills r := by
      intro r hr
      rw [List.map_map] at hr
      exact .inl (hl₂.fulfils hfields r hr)
    refine (ensures_addSchema hl₂.coherent (.form _ _) (by simp) hrefs).bind fun id p₃ hl₃ hid => ?_
    refine .pure hl₃.coherent fun id' hm => ?_
    rw [List.mem_singleton.mp hm]
    exact Option.isSome_iff_exists.mpr ⟨_, hid⟩
  split
  · split
    · exact .pure hl₂.coherent (hl₂.fulfils hfields)
    · exact gathered _
  · exact gathered _

theorem ensures_buildPartsRequest (h : p.Coherent doc []) (identity : Identity) (operation : Json)
    (parts : List Fragment) :
    Ensures doc [] p (buildPartsRequest doc identity operation parts)
      (fun r? p' => p'.Fulfils (r?.map (·.schema)).toList) True := by
  unfold buildPartsRequest
  split
  · exact .pure h .nil
  · split
    · refine (ensures_buildBodyRequest h _ _).map fun r p' _ hr => ?_
      exact hr
    · refine (ensures_buildFormRequest h _ _ _).map fun r p' _ hr => ?_
      exact hr

theorem ensures_buildOperation (h : p.Coherent doc []) (separator : Char) (groups : Groups)
    (method : Method) (key : String) (item operation : Fragment) :
    Ensures doc [] p (buildOperation doc separator groups method key item operation)
      (fun op p' => p'.Fulfils op.2.schemaIds) True := by
  unfold buildOperation
  dsimp only
  generalize Identity.ofOperation method key operation.value operation.pointer separator = found
  obtain ⟨identity, said⟩ := found
  refine (ensures_forM_report h said).bind fun _ p₁ hl₁ _ => ?_
  split
  · exact ensures_reject hl₁.coherent _ _ trivial
  · refine (ensures_mergedParameters hl₁.coherent item operation).bind fun merged p₂ hl₂ _ => ?_
    refine (ensures_buildParameters hl₂.coherent _).bind fun parameters p₃ hl₃ hparams => ?_
    refine (ensures_buildRequest hl₃.coherent identity operation).bind fun r? p₄ hl₄ hr => ?_
    cases r? with
    | some r =>
      dsimp only
      rw [pure_bind]
      exact .pure hl₄.coherent ((hl₄.fulfils hparams).append hr)
    | none =>
      refine (ensures_buildPartsRequest hl₄.coherent identity _ _).bind fun r? p₅ hl₅ hr => ?_
      exact .pure hl₅.coherent ((hl₅.fulfils (hl₄.fulfils hparams)).append hr)

theorem ensures_classifyAll (h : p.Coherent doc []) (entries : List (String × Path)) :
    Ensures doc [] p (classifyAll doc entries) (fun _ _ => True) E := by
  induction entries generalizing p with
  | nil => exact .pure h trivial
  | cons entry entries ih =>
    obtain ⟨name, slot⟩ := entry
    have hs := ensures_classifySlot h slot name
    unfold Ensures at hs
    cases hrun : classifySlot doc slot name p with
    | ok a p' | error r p' =>
      rw [hrun] at hs
      exact .of_leads hs.1 (ih hs.1.coherent) (by simp only [classifyAll, hrun])

theorem ensures_classifyCarried (h : p.Coherent doc []) (entries : List (String × Path)) :
    Ensures doc [] p (classifyCarried doc entries) (fun _ _ => True) E := by
  induction entries generalizing p with
  | nil => exact .pure h trivial
  | cons entry entries ih =>
    obtain ⟨name, slot⟩ := entry
    unfold classifyCarried
    dsimp only
    split
    · exact (ensures_reports h _).bind fun _ _ hl _ => ih hl.coherent
    · exact ih h
    · exact (ensures_classifyAll h _).bind fun _ _ hl _ => ih hl.coherent

theorem ensures_classifyComponents (h : p.Coherent doc []) :
    Ensures doc [] p (classifyComponents doc) (fun _ _ => True) E := by
  unfold classifyComponents
  refine (ensures_classifyCarried h _).bind fun _ _ hl₁ _ => ?_
  refine (ensures_classifyAll hl₁.coherent _).bind fun _ _ hl₂ _ => ?_
  exact ensures_classifyAll hl₂.coherent _

end Classify

end ApiModel

import ApiModel.Proofs.Ensures

/-!
# What classification ensures

A classifier that `Classifies` the nodes below gives each its id, or fails at a node that reaches an
invalid one. Each definition of the classification keeps this up: slots come out as `Shows`, keywords
as `DepictsSection`, nodes as `Depicts`. By induction on the nodes that are not on the stack,
`classifyWithin` is such a classifier itself.
-/

namespace ApiModel.Classify

open Progress (Coherent)

/-- The classifier finds the ids of the nodes that reach no invalid one. -/
def Classifies (doc : Document) (stack : List Path) (visit : Classifier) : Prop :=
  ∀ p name f, p.Coherent doc stack → doc.Holds f →
    Ensures doc stack p (visit name f) (fun id p' => p'.idOf? f.path = some id)
      (doc.ReachesInvalid f)

section

variable {doc : Document} {stack : List Path} {visit : Classifier} {p : Progress} {f : Fragment}
  {E : Prop} (hv : Classifies doc stack visit)

/-- What a slot comes to: the id of what it stands for, or nothing if nothing is declared there. -/
def ShowsSlot (doc : Document) (slot : Path) (id? : Option SchemaId) (p : Progress) : Prop :=
  match id? with
  | none => doc.resolve slot = .ok none
  | some id => p.directory.Shows doc slot id

include hv in
theorem ensures_visitSlot (h : p.Coherent doc stack) (slot : Path) (fallback : String)
    (hE : doc.SlotFails slot → E) :
    Ensures doc stack p (visitSlot doc visit slot fallback) (ShowsSlot doc slot) E := by
  unfold visitSlot
  cases hres : doc.resolve slot with
  | error r => exact ensures_reject h _ _ (hE (.inl ⟨r, hres⟩))
  | ok target =>
    cases target with
    | none => exact .pure h hres
    | some t =>
      have hvisit := hv p (t.name.getD fallback) t.toFragment h (Document.holds_of_resolve hres)
      have hvisit := hvisit.monoError fun hr => hE (.inr ⟨t, hres, hr⟩)
      exact hvisit.map fun id p' _ hid => ⟨t, hres, hid⟩

include hv in
theorem ensures_visitItems (h : p.Coherent doc stack) (name : String) (i : Nat) {slots : List Path}
    (hd : ∀ slot ∈ slots, (doc.at? slot).isSome) (hE : ∀ slot ∈ slots, doc.SlotFails slot → E) :
    Ensures doc stack p (visitItems doc visit name i slots)
      (fun ids p' => List.Forall₂ (p'.directory.Shows doc) slots ids) E := by
  induction slots generalizing p i with
  | nil => exact .pure h .nil
  | cons slot slots ih =>
    rw [List.forall_mem_cons] at hd hE
    unfold visitItems
    refine (ensures_visitSlot hv h slot _ hE.1).bind fun id? p₁ hl₁ hslot => ?_
    refine (ih hl₁.coherent (i + 1) hd.2 hE.2).bind fun ids p₂ hl₂ hids => ?_
    cases id? with
    | none => exact absurd hslot (Document.resolve_ne_none hd.1)
    | some id => exact .pure hl₂.coherent (.cons (hslot.mono hl₂.directory_le) hids)

include hv in
theorem ensures_visitMembers (h : p.Coherent doc stack) (name key : String)
    (hE : ∀ slot ∈ doc.items (f.slot key), doc.SlotFails slot → E) :
    Ensures doc stack p (visitMembers doc visit name f key)
      (fun ids p' => List.Forall₂ (p'.directory.Shows doc) (doc.items (f.slot key)) ids) E :=
  ensures_visitItems hv h _ 0 (fun _ => Document.isSome_at?_of_mem_items) hE

include hv in
theorem ensures_visitProperties (h : p.Coherent doc stack) (name : String) (required : List String)
    {entries : List (String × Path)} (hd : ∀ e ∈ entries, (doc.at? e.2).isSome)
    (hE : ∀ e ∈ entries, doc.SlotFails e.2 → E) :
    Ensures doc stack p (visitProperties doc visit name required entries)
      (fun ps p' => List.Forall₂ (p'.directory.ShowsProperty doc required) entries ps) E := by
  induction entries generalizing p with
  | nil => exact .pure h .nil
  | cons e entries ih =>
    obtain ⟨key, slot⟩ := e
    rw [List.forall_mem_cons] at hd hE
    unfold visitProperties
    cases hres : doc.resolve slot with
    | error r => exact ensures_reject h _ _ (hE.1 (.inl ⟨r, hres⟩))
    | ok target =>
      cases target with
      | none => exact absurd hres (Document.resolve_ne_none hd.1)
      | some t =>
        have hvisit := fun name =>
          (hv p name t.toFragment h (Document.holds_of_resolve hres)).monoError fun hr =>
            hE.1 (.inr ⟨t, hres, hr⟩)
        refine (hvisit _).bind fun id p₁ hl₁ hid => ?_
        refine (ih hl₁.coherent hd.2 hE.2).bind fun ps p₂ hl₂ hps => ?_
        exact .pure hl₂.coherent (.cons ⟨t, hres, id, hl₂.idOf? hid, rfl⟩ hps)

variable (hh : doc.Holds f) (hf : f.value.form = .object)

include hv hh hf in
theorem ensures_visitSection (h : p.Coherent doc stack) (name : String) (s : Section) :
    Ensures doc stack p (visitSection doc visit name f s)
      (fun kind? p' => p'.directory.DepictsSection doc f s kind?) (doc.ReachesInvalid f) := by
  have hE : ∀ slot ∈ doc.sectionSlots f s, doc.SlotFails slot → doc.ReachesInvalid f :=
    fun slot hm hs => hs.reaches (Document.mem_dependencySlots_of_section hf hm)
  unfold visitSection
  cases s with
  | properties =>
    dsimp only
    split
    · rename_i hp
      simp only [Document.sectionSlots, hp, if_true, List.forall_mem_map] at hE
      refine (ensures_visitProperties hv h name _ (fun _ => Document.isSome_at?_of_mem_entries)
        hE).bind fun ps p' hl hps => ?_
      exact .pure hl.coherent (.properties hp hps)
    · rename_i hp
      exact .pure h (.noProperties (Bool.eq_false_iff.mpr hp))
  | additionalProperties =>
    dsimp only
    split
    · rename_i ha
      exact .pure h (.closed ha)
    · rename_i ha
      refine (ensures_anySchema h).bind fun id p' hl hid => ?_
      exact .pure hl.coherent (.anyValue ha hid)
    · rename_i ha
      simp only [Document.sectionSlots, ha, if_true, List.mem_singleton, forall_eq] at hE
      refine (ensures_visitSlot hv h _ _ hE).bind fun id? p' hl hid => ?_
      cases id? with
      | none =>
        exact absurd hid (Document.resolve_ne_none (Document.isSome_at?_of_additionalProperties hh ha))
      | some id => exact .pure hl.coherent (.values ha hid)
  | anyOf =>
    dsimp only
    split
    · rename_i hp
      simp only [Document.sectionSlots, hp, if_true] at hE
      refine (ensures_visitMembers hv h name "anyOf" hE).bind fun ids p' hl hids => ?_
      exact .pure hl.coherent (.anyOf hp hids)
    · rename_i hp
      exact .pure h (.noAnyOf (Bool.eq_false_iff.mpr hp))
  | oneOf =>
    dsimp only
    split
    · rename_i hp
      simp only [Document.sectionSlots, hp, if_true] at hE
      refine (ensures_visitMembers hv h name "oneOf" hE).bind fun ids p' hl hids => ?_
      exact .pure hl.coherent (.oneOf hp hids)
    · rename_i hp
      exact .pure h (.noOneOf (Bool.eq_false_iff.mpr hp))

include hv hh hf in
theorem ensures_visitSections (h : p.Coherent doc stack) (name : String) {sections : List Section}
    (hn : sections.Nodup) :
    Ensures doc stack p (visitSections doc visit name f sections)
      (fun parts p' => ∃ kinds, (∀ s ∈ sections, p'.directory.DepictsSection doc f s (kinds s)) ∧
        parts = Directory.partsOf kinds sections)
      (doc.ReachesInvalid f) := by
  induction sections generalizing p with
  | nil => exact .pure h ⟨fun _ => none, by simp, rfl⟩
  | cons s sections ih =>
    rw [List.nodup_cons] at hn
    unfold visitSections
    refine (ensures_visitSection hv hh hf h name s).bind fun kind? p₁ hl₁ hkind => ?_
    refine (ih hl₁.coherent hn.2).bind fun parts p₂ hl₂ ⟨kinds, hkinds, hparts⟩ => ?_
    have hother : ∀ s' ∈ sections, Function.update kinds s kind? s' = kinds s' := by
      intro s' hs'
      exact Function.update_of_ne (by rintro rfl; exact hn.1 hs') _ _
    refine .pure hl₂.coherent ⟨Function.update kinds s kind?, ?_, ?_⟩
    · intro s' hs'
      rcases List.mem_cons.mp hs' with rfl | hs'
      · rw [Function.update_self]; exact hkind.mono hl₂.directory_le
      · rw [hother s' hs']; exact hkinds s' hs'
    · subst hparts
      simp only [Directory.partsOf, List.flatMap_cons, Function.update_self]
      congr 1
      exact List.flatMap_congr fun s' hs' => by rw [hother s' hs']

theorem ensures_addParts (h : p.Coherent doc stack) (name : String)
    {parts : List (Section × Schema.Kind)}
    (hm : ∀ part ∈ parts, part.1.Makes part.2 ∧ ∀ r ∈ part.2.references, p.Fills r) :
    Ensures doc stack p (addParts name parts)
      (fun ids p' => List.Forall₂ (p'.directory.HoldsPart name) ids parts) E := by
  induction parts generalizing p with
  | nil => exact .pure h .nil
  | cons part parts ih =>
    obtain ⟨s, kind⟩ := part
    rw [List.forall_mem_cons] at hm
    unfold addParts
    refine (ensures_addSchema h (.part name hm.1.1) hm.1.1.ne_any hm.1.2).bind
      fun id p₁ hl₁ hid => ?_
    refine (ih hl₁.coherent fun part hp => ?_).bind fun ids p₂ hl₂ hids => ?_
    · exact ⟨(hm.2 part hp).1, fun r hr => hl₁.fills ((hm.2 part hp).2 r hr)⟩
    · exact .pure hl₂.coherent (.cons (hl₂.get? hid) hids)

theorem ensures_assemble (h : p.Coherent doc stack) (name : String) (parents : List SchemaId)
    {parts : List (Section × Schema.Kind)}
    (hm : ∀ part ∈ parts, part.1.Makes part.2 ∧ ∀ r ∈ part.2.references, p.Fills r) :
    Ensures doc stack p (assemble name f parents parts)
      (fun s p' => ∃ kind, s = .describedBy name f.value kind ∧
        p'.directory.Assembles name parents parts kind) E := by
  have members : (parents ≠ [] ∨ 2 ≤ parts.length) → Ensures doc stack p
      (addParts name parts >>= fun ids =>
        pure (Schema.describedBy name f.value (.allOf (parents ++ ids))))
      (fun s p' => ∃ kind, s = .describedBy name f.value kind ∧
        p'.directory.Assembles name parents parts kind) E := by
    intro hlen
    refine (ensures_addParts h name hm).bind fun ids p' hl hids => ?_
    exact .pure hl.coherent ⟨_, rfl, .members hlen hids⟩
  match parents, parts with
  | [], [] =>
    refine (ensures_report h _).bind fun _ p' hl _ => ?_
    exact .pure hl.coherent ⟨_, rfl, .empty⟩
  | [], [(s, kind)] => exact .pure h ⟨_, rfl, .single s kind⟩
  | [], _ :: _ :: _ => exact members (.inr (by simp))
  | _ :: _, _ => exact members (.inl (by simp))

include hv hh hf in
theorem ensures_buildObject (h : p.Coherent doc stack) (name : String) :
    Ensures doc stack p (buildObject doc visit name f)
      (fun s p' => p'.directory.Depicts doc f s) (doc.ReachesInvalid f) := by
  unfold buildObject
  split
  · rename_i ha
    have hi : doc.IllFormed f := by simp only [Document.IllFormed, hf]; exact ha
    exact ensures_reject h _ _ hi.reaches
  · rename_i ha
    have hall : ∀ slot ∈ doc.items (f.slot "allOf"), doc.SlotFails slot → doc.ReachesInvalid f := by
      intro slot hm hs
      refine hs.reaches ?_
      rw [Document.dependencySlots_object hf]
      exact List.mem_append_left _ hm
    refine (ensures_visitMembers hv h name "allOf" hall).bind fun parents p₁ hl₁ hparents => ?_
    refine (ensures_visitSections hv hh hf hl₁.coherent name (by decide)).bind
      fun parts p₂ hl₂ ⟨kinds, hkinds, hparts⟩ => ?_
    have hsec : ∀ s, p₂.directory.DepictsSection doc f s (kinds s) :=
      fun s => hkinds s s.mem_all
    have hm : ∀ part ∈ parts, part.1.Makes part.2 ∧ ∀ r ∈ part.2.references, p₂.Fills r := by
      intro part hp
      have hd := Directory.DepictsSection.of_mem_partsOf hkinds (hparts ▸ hp)
      refine ⟨hd.makes, fun r hr => ?_⟩
      rcases hd.below_or_any hf hr with ⟨slot, -, hs⟩ | ha
      · exact hl₂.coherent.fills_of_shows hs
      · exact hl₂.coherent.fills_of_any ha
    refine (ensures_assemble hl₂.coherent name parents hm).mono ?_ id
    rintro s p₃ hl₃ ⟨kind, rfl, hass⟩
    have hle := hl₃.directory_le
    refine .object hf (Bool.eq_false_iff.mpr ha) ?_ (fun s => (hsec s).mono hle) (hparts ▸ hass)
    exact hparents.imp fun _ _ hs => (hs.mono hl₂.directory_le).mono hle

include hv in
theorem ensures_buildArray (h : p.Coherent doc stack) (name : String) (hf : f.value.form = .array) :
    Ensures doc stack p (buildArray doc visit name f)
      (fun s p' => p'.directory.Depicts doc f s) (doc.ReachesInvalid f) := by
  have hE : doc.SlotFails (f.slot "items") → doc.ReachesInvalid f := fun hs =>
    hs.reaches (by simp [Document.dependencySlots_array hf])
  unfold buildArray
  refine (ensures_visitSlot hv h _ _ hE).bind fun id? p' hl hid => ?_
  cases id? with
  | none =>
    have hi : doc.IllFormed f := by simp only [Document.IllFormed, hf]; exact hid
    exact ensures_reject hl.coherent _ _ hi.reaches
  | some id => exact .pure hl.coherent (.array hf hid)

theorem ensures_buildChoice (h : p.Coherent doc stack) (name : String)
    (hf : f.value.form = .choice) :
    Ensures doc stack p (buildChoice name f.value)
      (fun s p' => p'.directory.Depicts doc f s) E := by
  unfold buildChoice
  dsimp only
  cases hk : f.value.choiceKind? with
  | some kind =>
    obtain ⟨hrefs, hany⟩ := Json.plain_of_choiceKind? hk
    refine (ensures_addSchema h (.valueType _ hk) hany fun r hr => ?_).bind fun id p' hl hid => ?_
    · rw [Schema.references, Schema.kind_undescribed, hrefs] at hr
      cases hr
    · refine .pure hl.coherent (.choice hf ?_)
      unfold Directory.ShowsValueType
      rw [hk]; exact hid
  | none =>
    refine (ensures_anySchema h).bind fun id p' hl hid => ?_
    refine .pure hl.coherent (.choice hf ?_)
    unfold Directory.ShowsValueType
    rw [hk]; exact hid

include hv hh in
theorem ensures_build (h : p.Coherent doc stack) (name : String) :
    Ensures doc stack p (build doc visit name f)
      (fun s p' => p'.directory.Depicts doc f s) (doc.ReachesInvalid f) := by
  have hreport : Ensures doc stack p
      (f.value.correction?.forM fun c => report (c.diagnostic name f.pointer)) (fun _ _ => True)
      (doc.ReachesInvalid f) := by
    cases f.value.correction? with
    | none => exact .pure h trivial
    | some c => exact ensures_report h _
  unfold build
  refine hreport.bind fun _ p' hl _ => ?_
  have h' := hl.coherent
  cases hf : f.value.form with
  | choice => exact ensures_buildChoice h' name hf
  | plain kind => exact .pure h' (.plain hf)
  | array => exact ensures_buildArray hv h' name hf
  | object => exact ensures_buildObject hv hh hf h' name
  | untyped | unknownType | unknownFormat =>
    have hi : doc.IllFormed f := by simp only [Document.IllFormed, hf]
    exact ensures_reject h' _ _ hi.reaches

end

/-! ### Nodes -/

variable {doc : Document} {stack : List Path} {p : Progress} {f : Fragment}

/-- A node with a slot of its own while its schema is built: the slots of the other nodes in progress
lie before it, and what lies before it refers to nothing later. -/
theorem ensures_inSlot (h : p.Coherent doc stack) (hf : doc.Holds f)
    (hn : p.memo.get? f.path = none) {build : Classify Schema}
    (hb : Ensures doc (f.path :: stack) (p.begin f.path) build
      (fun s p' => p'.directory.Depicts doc f s) (doc.ReachesInvalid f)) :
    Ensures doc stack p (inSlot f.path build) (fun id p' => p'.idOf? f.path = some id)
      (doc.ReachesInvalid f) := by
  have hi : (p.begin f.path).memo.get? f.path = some (.inProgress p.catalog.nextId) := by
    rw [Progress.get?_memo_begin, if_pos rfl]
  have hp := h.not_mem_stack hn
  unfold Ensures at hb
  unfold Ensures inSlot
  cases hrun : build (p.begin f.path) with
  | ok s p' =>
    rw [hrun] at hb
    obtain ⟨hl, hd⟩ := hb
    have hi' := hl.entry _ _ hi
    refine ⟨⟨.complete hn hl.toExtends, hl.coherent.complete hp hf hi' hd⟩, ?_⟩
    exact Progress.idOf?_of_done (by rw [Progress.get?_memo_complete, if_pos rfl])
  | error r p' =>
    rw [hrun] at hb
    obtain ⟨hl, hr⟩ := hb
    have hx := (Progress.Extends.begin hn).trans hl.toExtends
    refine ⟨⟨.abandon h hn hl.toExtends, ?_⟩, hr⟩
    refine hl.coherent.abandon hp hf (hl.entry _ _ hi) hr ?_ ?_
    · intro path hpath r hr
      obtain ⟨id, hid⟩ := (h.mem_stack path).mp hpath
      rw [hx.entry _ _ hid] at hr
      cases hr
      exact h.lt_size_of_idOf? (Progress.idOf?_of_inProgress hid)
    · intro j t hj ht r hr
      rw [hx.slot j hj] at ht
      exact h.lt_size_of_fills (h.closed j t ht r hr)

theorem classifies_classifyWithin (doc : Document) (stack : List Path) :
    Classifies doc stack (classifyWithin doc stack) := by
  induction hn : doc.unseen stack using Nat.strongRecOn generalizing stack with
  | ind n ih =>
    intro p name f h hf
    unfold classifyWithin
    refine (ensures_get h).bind fun q p' hl hq => ?_
    subst hq
    split
    · rename_i id hi
      exact .pure hl.coherent (Progress.idOf?_of_inProgress hi)
    · rename_i id hi
      exact .pure hl.coherent (Progress.idOf?_of_done hi)
    · rename_i hi
      exact ⟨hl.coherent.leads, hl.coherent.failed f hf hi⟩
    · rename_i hi
      -- The nodes of the stack are in the memory, so the test for the stack never refuses a node.
      have hs := hl.coherent.not_mem_stack hi
      have hat : doc.at? f.path = some f.value := hf
      rw [dif_pos ⟨by rw [hat]; rfl, hs⟩]
      have hbelow := ih _ (hn ▸ Document.unseen_cons_lt hat hs) (f.path :: stack) rfl
      exact ensures_inSlot hl.coherent hf hi
        (ensures_build hbelow hf (hl.coherent.begin hf hi) name)

theorem classifies_classify (doc : Document) : Classifies doc [] (classify doc) :=
  classifies_classifyWithin doc []

end ApiModel.Classify

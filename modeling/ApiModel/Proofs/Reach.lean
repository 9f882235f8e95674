import ApiModel.Proofs.Attempts

/-!
# What a classification leaves behind

`c.GrowsBy ids c'`: the catalog `c'` goes on where `c` ends, and each schema that it has besides is
reached from one of `ids`. Every step of a classification that gives a result grows the catalog by the
ids in that result, since a schema is only made where something is about to refer to it: what a node
refers to grows the catalog while the node has an empty slot, and filling the slot turns the many
references into one id.

All of this is about steps that end well. One that rejects its node leaves behind what it made before.
-/

namespace ApiModel

namespace Catalog

variable {c c₁ c₂ : Catalog} {ids ids' : List SchemaId} {id : SchemaId} {s : Schema}

/-- The first schema is stored and refers to the second. -/
def Refers (c : Catalog) (a b : SchemaId) : Prop := ∃ s, c.get? a = some s ∧ b ∈ s.references

def Reaches (c : Catalog) : SchemaId → SchemaId → Prop := Relation.ReflTransGen c.Refers

theorem Reaches.mono (hc : ∀ id s, c.get? id = some s → c₁.get? id = some s) {a b : SchemaId}
    (h : c.Reaches a b) : c₁.Reaches a b := by
  have hstep : c.Refers ≤ c₁.Refers := by
    rintro a b ⟨s, hs, hr⟩
    exact ⟨s, hc a s hs, hr⟩
  exact Relation.ReflTransGen.mono hstep a b h

structure GrowsBy (c : Catalog) (ids : List SchemaId) (c' : Catalog) : Prop where
  size_le : c.slots.size ≤ c'.slots.size
  slot : ∀ id, id.index < c.slots.size → c'.get? id = c.get? id
  reached : ∀ id, (c'.get? id).isSome → c.slots.size ≤ id.index → ∃ root ∈ ids, c'.Reaches root id

namespace GrowsBy

theorem refl (c : Catalog) (ids : List SchemaId) : c.GrowsBy ids c where
  size_le := Nat.le_refl _
  slot _ _ := rfl
  reached id hs hle := by
    obtain ⟨s, hs⟩ := Option.isSome_iff_exists.mp hs
    exact absurd (lt_size_of_get? hs) (Nat.not_lt_of_le hle)

theorem get? (h : c.GrowsBy ids c₁) (hs : c.get? id = some s) : c₁.get? id = some s :=
  (h.slot id (lt_size_of_get? hs)).trans hs

/-- The ids may be traded for others that reach them. -/
theorem through (h : c.GrowsBy ids c₁) (hids : ∀ id ∈ ids, ∃ root ∈ ids', c₁.Reaches root id) :
    c.GrowsBy ids' c₁ where
  size_le := h.size_le
  slot := h.slot
  reached id hs hle := by
    obtain ⟨r, hr, hid⟩ := h.reached id hs hle
    obtain ⟨root, hroot, hr⟩ := hids r hr
    exact ⟨root, hroot, hr.trans hid⟩

theorem mono (h : c.GrowsBy ids c₁) (hids : ids ⊆ ids') : c.GrowsBy ids' c₁ :=
  h.through fun id hid => ⟨id, hids hid, .refl⟩

theorem trans (h : c.GrowsBy ids c₁) (h' : c₁.GrowsBy ids' c₂) : c.GrowsBy (ids ++ ids') c₂ where
  size_le := Nat.le_trans h.size_le h'.size_le
  slot id hid := (h'.slot id (Nat.lt_of_lt_of_le hid h.size_le)).trans (h.slot id hid)
  reached id hs hle := by
    rcases Nat.lt_or_ge id.index c₁.slots.size with hlt | hge
    · rw [h'.slot id hlt] at hs
      obtain ⟨root, hroot, hid⟩ := h.reached id hs hle
      exact ⟨root, List.mem_append_left _ hroot, hid.mono fun _ _ => h'.get?⟩
    · obtain ⟨root, hroot, hid⟩ := h'.reached id hs hge
      exact ⟨root, List.mem_append_right _ hroot, hid⟩

/-- A schema that is added takes the place of the ids that it refers to. -/
theorem add (h : c.GrowsBy ids c₁) (s : Schema) (ids' : List SchemaId)
    (hids : ∀ id ∈ ids, id ∈ s.references ∨ id ∈ ids') : c.GrowsBy (c₁.nextId :: ids') (c₁.add s) := by
  have hnew : (c₁.add s).get? c₁.nextId = some s := by rw [get?_add, if_pos rfl]
  have hstep : c₁.GrowsBy [c₁.nextId] (c₁.add s) := by
    have hsize : (c₁.add s).slots.size = c₁.slots.size + 1 := Array.size_push ..
    refine ⟨by omega, fun id hid => ?_, fun id ht hle => ?_⟩
    · rw [get?_add, if_neg (by rintro rfl; exact Nat.lt_irrefl _ hid)]
    · obtain ⟨t, ht⟩ := Option.isSome_iff_exists.mp ht
      have hlt := lt_size_of_get? ht
      obtain ⟨i⟩ := id
      have hi : i = c₁.slots.size := by simp only at hlt hle; omega
      subst hi
      exact ⟨_, List.mem_singleton_self _, .refl⟩
  refine (h.trans hstep).through fun id hid => ?_
  rcases List.mem_append.mp hid with hid | hid
  · rcases hids id hid with hr | hr
    · exact ⟨_, List.mem_cons_self .., .single ⟨s, hnew, hr⟩⟩
    · exact ⟨id, List.mem_cons_of_mem _ hr, .refl⟩
  · rw [List.mem_singleton.mp hid]
    exact ⟨_, List.mem_cons_self .., .refl⟩

/-- A slot that was taken first and is filled last takes the place of what its schema refers to. -/
theorem fill (h : c.reserve.GrowsBy s.references c₁) :
    c.GrowsBy [c.nextId] (c₁.fill c.nextId s) := by
  have hsize : c.reserve.slots.size = c.slots.size + 1 := Array.size_push ..
  have hlt : c.nextId.index < c.reserve.slots.size := by rw [hsize]; exact Nat.lt_succ_self _
  have hget := c₁.get?_fill (Nat.lt_of_lt_of_le hlt h.size_le) s
  have hempty : c₁.get? c.nextId = none := by
    rw [h.slot _ hlt, get?_reserve]
    simp [Catalog.get?, nextId]
  have hkept : ∀ id t, c₁.get? id = some t → (c₁.fill c.nextId s).get? id = some t := by
    intro id t ht
    have hne : id ≠ c.nextId := by rintro rfl; rw [hempty] at ht; cases ht
    rw [hget, if_neg hne, ht]
  refine ⟨?_, fun id hid => ?_, fun id ht hle => ?_⟩
  · have := h.size_le
    simp only [Catalog.fill, Array.size_setIfInBounds]
    omega
  · have hne : id ≠ c.nextId := by rintro rfl; exact Nat.lt_irrefl _ hid
    rw [hget, if_neg hne, h.slot id (by omega), get?_reserve]
  · refine ⟨_, List.mem_singleton_self _, ?_⟩
    by_cases he : id = c.nextId
    · rw [he]; exact .refl
    · rw [hget, if_neg he] at ht
      have hgt : c.reserve.slots.size ≤ id.index := by
        obtain ⟨i⟩ := id
        have hi : i ≠ c.slots.size := fun hi => he (congrArg SchemaId.mk hi)
        simp only at hle ⊢
        omega
      obtain ⟨r, hr, hid⟩ := h.reached id ht hgt
      exact .head ⟨s, by rw [hget, if_pos rfl], hr⟩ (hid.mono hkept)

end GrowsBy

end Catalog

namespace Classify

variable {doc : Document} {visit : Classifier} {f : Fragment} {α β : Type} {x : Classify α}
  {ids : List SchemaId} {roots : α → List SchemaId}

/-- If the catalog has grown by `ids` before a step that ends well, it has grown by the `roots` of the
result after it. -/
def Grows (ids : List SchemaId) (x : Classify α) (roots : α → List SchemaId) : Prop :=
  ∀ c p a p', Catalog.GrowsBy c ids p.catalog → x p = .ok a p' → c.GrowsBy (roots a) p'.catalog

namespace Grows

theorem pure {a : α} (h : ids ⊆ roots a) : Grows ids (Pure.pure a) roots := by
  intro c p _ _ hc hrun
  cases hrun
  exact hc.mono h

theorem bind {f : α → Classify β} {roots' : β → List SchemaId} (hx : Grows ids x roots)
    (hf : ∀ a, Grows (roots a) (f a) roots') : Grows ids (x >>= f) roots' := by
  intro c p b q hc hrun
  obtain ⟨a, p', ha, hb⟩ := exists_of_bind_eq_ok hrun
  exact hf a c p' b q (hx c p a p' hc ha) hb

/-- By what the catalog has grown before it has also grown after. -/
theorem frame (hx : Grows [] x roots) (ids : List SchemaId) :
    Grows ids x fun a => ids ++ roots a :=
  fun _ p a p' hc hrun => hc.trans (hx p.catalog p a p' (.refl _ _) hrun)

theorem map {f : α → β} {roots' : β → List SchemaId} (hx : Grows ids x roots)
    (hf : ∀ a, roots a ⊆ roots' (f a)) : Grows ids (f <$> x) roots' := by
  rw [← bind_pure_comp]
  exact hx.bind fun a => .pure (hf a)

end Grows

theorem grows_reject (r : Rejection) (source : String) :
    Grows ids (reject r source : Classify α) roots := by
  intro c p a p' _ hrun
  cases hrun

theorem grows_report (d : Diagnostic) : Grows ids (report d) fun _ => ids := by
  intro c p _ _ hc hrun
  cases hrun
  exact hc

/-- The schema takes the place of what it refers to. -/
theorem grows_addSchema {s : Schema} (others : List SchemaId)
    (h : ∀ id ∈ ids, id ∈ s.references ∨ id ∈ others) :
    Grows ids (addSchema s) fun id => id :: others := by
  intro c p _ _ hc hrun
  cases hrun
  exact hc.add s others h

theorem grows_anySchema : Grows [] anySchema fun id => [id] := by
  intro c p id p' hc hrun
  unfold anySchema at hrun
  split at hrun
  · cases hrun
    exact hc.mono (List.nil_subset _)
  · cases hrun
    exact hc.add _ [] (by simp)

section

variable (hv : ∀ name f, Grows [] (visit name f) fun id => [id])

include hv in
theorem grows_visitSlot (slot : Path) (fallback : String) :
    Grows [] (visitSlot doc visit slot fallback) fun id? => id?.toList := by
  unfold visitSlot
  split
  · exact grows_reject _ _
  · exact .pure (List.nil_subset _)
  · exact (hv _ _).map fun id => by simp

include hv in
theorem grows_visitItems (name : String) (i : Nat) (slots : List Path) :
    Grows [] (visitItems doc visit name i slots) id := by
  induction slots generalizing i with
  | nil => exact .pure (List.nil_subset _)
  | cons slot slots ih =>
    unfold visitItems
    refine (grows_visitSlot hv slot _).bind fun id? => ((ih (i + 1)).frame _).bind fun ids => ?_
    exact .pure (List.Subset.refl _)

include hv in
theorem grows_visitProperties (name : String) (required : List String)
    (entries : List (String × Path)) :
    Grows [] (visitProperties doc visit name required entries) fun ps => ps.map (·.schema) := by
  induction entries with
  | nil => exact .pure (List.nil_subset _)
  | cons e entries ih =>
    obtain ⟨key, slot⟩ := e
    unfold visitProperties
    split
    · exact grows_reject _ _
    · exact ih
    · refine (hv _ _).bind fun id => (ih.frame [id]).bind fun ps => ?_
      exact .pure (by simp [property])

/-- The ids that parts of an object refer to. -/
def partReferences (parts : List (Section × Schema.Kind)) : List SchemaId :=
  parts.flatMap (·.2.references)

include hv in
theorem grows_visitSection (name : String) (s : Section) :
    Grows [] (visitSection doc visit name f s) fun kind? => kind?.toList.flatMap (·.references) := by
  unfold visitSection
  cases s with
  | properties =>
    dsimp only
    split
    · refine (grows_visitProperties hv name _ _).bind fun ps => .pure ?_
      simp [Schema.Kind.references]
    · exact .pure (List.nil_subset _)
  | additionalProperties =>
    dsimp only
    split
    · exact .pure (List.nil_subset _)
    · exact grows_anySchema.bind fun id => .pure (by simp [Schema.Kind.references])
    · refine (grows_visitSlot hv _ _).bind fun id? => .pure ?_
      cases id? <;> simp [Schema.Kind.references]
  | anyOf | oneOf =>
    dsimp only
    split
    · refine (grows_visitItems hv _ 0 _).bind fun ids => .pure ?_
      simp [Schema.Kind.references]
    · exact .pure (List.nil_subset _)

include hv in
theorem grows_visitSections (name : String) (sections : List Section) :
    Grows [] (visitSections doc visit name f sections) partReferences := by
  induction sections with
  | nil => exact .pure (List.nil_subset _)
  | cons s sections ih =>
    unfold visitSections
    refine (grows_visitSection hv name s).bind fun kind? => (ih.frame _).bind fun parts => .pure ?_
    simp [partReferences, List.flatMap_map]

/-- Each part takes the place of what it refers to. -/
theorem grows_addParts (name : String) (parts : List (Section × Schema.Kind))
    (others : List SchemaId) :
    Grows (partReferences parts ++ others) (addParts name parts) fun ids => ids ++ others := by
  induction parts generalizing others with
  | nil => exact .pure (List.Subset.refl _)
  | cons part parts ih =>
    obtain ⟨s, kind⟩ := part
    unfold addParts
    refine (grows_addSchema (partReferences parts ++ others) ?_).bind fun id => ?_
    · intro id hid
      simpa [partReferences, Schema.references] using hid
    · -- The slot of this part is one of the others while the later parts are added.
      have hrest := ih (id :: others)
      have hids : id :: (partReferences parts ++ others) ⊆ partReferences parts ++ id :: others :=
        by simp
      exact .bind (fun c p a p' hc => hrest c p a p' (hc.mono hids)) fun ids => .pure (by simp)

theorem grows_assemble (name : String) (parents : List SchemaId)
    (parts : List (Section × Schema.Kind)) :
    Grows (parents ++ partReferences parts) (assemble name f parents parts) (·.references) := by
  have members : ∀ parts, Grows (parents ++ partReferences parts)
      (addParts name parts >>= fun ids =>
        Pure.pure (Schema.describedBy name f.value (.allOf (parents ++ ids)))) (·.references) := by
    intro parts
    have hadd := grows_addParts name parts parents
    have hids : parents ++ partReferences parts ⊆ partReferences parts ++ parents := by simp
    refine .bind (fun c p a p' hc => hadd c p a p' (hc.mono hids)) fun ids => .pure ?_
    simp [Schema.references, Schema.Kind.references]
  cases parents with
  | cons _ _ => exact members _
  | nil =>
    cases parts with
    | nil => exact (grows_report _).bind fun _ => .pure (List.nil_subset _)
    | cons part parts =>
      cases parts with
      | nil => exact .pure (by simp [Schema.references, partReferences])
      | cons _ _ => exact members _

include hv in
theorem grows_buildObject (name : String) :
    Grows [] (buildObject doc visit name f) (·.references) := by
  unfold buildObject
  split
  · exact grows_reject _ _
  · refine (grows_visitItems hv _ 0 _).bind fun parents => ?_
    refine ((grows_visitSections hv name Section.all).frame parents).bind fun parts => ?_
    exact grows_assemble name parents parts

include hv in
theorem grows_buildArray (name : String) : Grows [] (buildArray doc visit name f) (·.references) := by
  unfold buildArray
  refine (grows_visitSlot hv _ _).bind fun id? => ?_
  cases id? with
  | none => exact grows_reject _ _
  | some id => exact .pure (by simp [Schema.references, Schema.Kind.references])

theorem grows_buildChoice (name : String) (v : Json) : Grows [] (buildChoice name v) (·.references) := by
  unfold buildChoice
  dsimp only
  split
  · refine (grows_addSchema [] (by simp)).bind fun id => ?_
    exact .pure (by simp [Schema.references, Schema.Kind.references])
  · refine grows_anySchema.bind fun id => ?_
    exact .pure (by simp [Schema.references, Schema.Kind.references])

include hv in
theorem grows_build (name : String) : Grows [] (build doc visit name f) (·.references) := by
  have hreport : Grows [] (f.value.correction?.forM fun c => report (c.diagnostic name f.pointer))
      fun _ => [] := by
    cases f.value.correction? with
    | none => exact .pure (List.nil_subset _)
    | some c => exact grows_report _
  unfold build
  refine hreport.bind fun _ => ?_
  split
  · exact grows_buildChoice name f.value
  · exact .pure (List.nil_subset _)
  · exact grows_buildArray hv name
  · exact grows_buildObject hv name
  all_goals exact grows_reject _ _

end

theorem grows_inSlot {path : Path} {build : Classify Schema} (hb : Grows [] build (·.references)) :
    Grows [] (inSlot path build) fun id => [id] := by
  intro c p id p' hc hrun
  unfold inSlot at hrun
  dsimp only at hrun
  split at hrun
  · rename_i s p₁ hs
    cases hrun
    exact hc.trans (hb _ _ s p₁ (.refl _ _) hs).fill
  · cases hrun

theorem grows_classifyWithin (doc : Document) (stack : List Path) (name : String) (f : Fragment) :
    Grows [] (classifyWithin doc stack name f) fun id => [id] := by
  induction hn : doc.unseen stack using Nat.strongRecOn generalizing stack name f with
  | ind n ih =>
    unfold classifyWithin
    have hget : Grows [] (get : Classify Progress) fun _ => [] := by
      intro c p _ _ hc hrun
      cases hrun
      exact hc
    refine hget.bind fun q => ?_
    split
    · exact .pure (List.nil_subset _)
    · exact .pure (List.nil_subset _)
    · intro c p id p' _ hrun
      cases hrun
    · split
      · rename_i hnew
        obtain ⟨v, hv⟩ := Option.isSome_iff_exists.mp hnew.1
        have hlt := Document.unseen_cons_lt hv hnew.2
        exact grows_inSlot (grows_build (fun name g => ih _ (hn ▸ hlt) _ name g rfl) name)
      · intro c p id p' _ hrun
        cases hrun

theorem grows_classifySlot (doc : Document) (slot : Path) (fallback : String) :
    Grows [] (classifySlot doc slot fallback) fun id? => id?.toList :=
  grows_visitSlot (grows_classifyWithin doc []) slot fallback

end Classify

end ApiModel

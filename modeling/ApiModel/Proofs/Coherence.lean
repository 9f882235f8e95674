import ApiModel.Proofs.Depiction
import ApiModel.Proofs.Ledger
import ApiModel.Server

/-!
# Coherent progress

`Coherent doc stack p` is what holds of the progress `p` whenever the nodes of the stack are being
classified: slots and memory agree, the schema of a node that is done depicts it, a node that failed
reaches an invalid one, and schemas refer to filled slots or to those of nodes in progress. Adding a
schema, taking a slot and filling it keep this.
-/

namespace ApiModel

open Classify (Section)

/-- The kinds that a keyword of an object makes. -/
def Classify.Section.Makes : Section → Schema.Kind → Prop
  | .properties, .object _ _ _ => True
  | .additionalProperties, .dictionary _ => True
  | .anyOf, .anyOf _ => True
  | .oneOf, .oneOf _ => True
  | _, _ => False

theorem Classify.Section.Makes.ne_any {s : Section} {kind : Schema.Kind} (h : s.Makes kind) :
    kind ≠ .any := by
  rintro rfl
  cases s <;> exact h

theorem Directory.DepictsSection.makes {doc : Document} {d : Directory} {f : Fragment} {s : Section}
    {kind : Schema.Kind} (h : d.DepictsSection doc f s (some kind)) : s.Makes kind := by
  cases h <;> trivial

/-- The schemas that are made for no node: that of any value, the type of the values of a choice, a
part of an object, the fields of a form, and the schemas of a server variable. -/
inductive Synthesized : Schema → Prop
  | any : Synthesized .anyValue
  | valueType (name : String) {v : Json} {kind : Schema.Kind} (h : v.choiceKind? = some kind) :
      Synthesized (.undescribed s!"{name}.choiceType" kind)
  | part (name : String) {s : Section} {kind : Schema.Kind} (h : s.Makes kind) :
      Synthesized (.undescribed s!"{name}.{s.key}" kind)
  | form (name : String) (fields : List Property) :
      Synthesized (.undescribed (name ++ "Body") (.object fields none none))
  | variableText (name description : String) :
      Synthesized (ServerVariable.textSchema name description)
  | variableChoice (name description : String) (choices : List Choice) (id : SchemaId) :
      Synthesized { name, description, kind := .choice choices id true }

namespace Progress

variable {doc : Document} {stack : List Path} {p p' : Progress} {f g : Fragment} {path : Path}
  {id r : SchemaId} {s : Schema}

/-- What is known of the nodes, those in progress included. -/
def directory (p : Progress) : Directory where
  has path id := p.idOf? path = some id
  schema? := p.catalog.get?
  anyId := p.anyId

/-- What is known of the nodes that are done. -/
def finished (p : Progress) : Directory where
  has path id := p.memo.get? path = some (.done id)
  schema? := p.catalog.get?
  anyId := p.anyId

/-- The slot is filled or will be. -/
def Fills (p : Progress) (r : SchemaId) : Prop :=
  (p.catalog.get? r).isSome ∨ ∃ path, p.memo.get? path = some (.inProgress r)

theorem Extends.directory_le (h : p.Extends p') : p.directory.Le p'.directory :=
  ⟨fun _ _ => h.idOf?, fun _ _ => h.get?, h.anyId⟩

theorem Extends.fills (h : p.Extends p') (hr : p.Fills r) : p'.Fills r := by
  rcases hr with hr | ⟨path, hr⟩
  · exact .inl (h.isSome_get? hr)
  · exact .inr ⟨path, h.entry _ _ hr⟩

structure Coherent (doc : Document) (stack : List Path) (p : Progress) : Prop
    extends p.Ledger stack where
  nodes : ∀ path, (p.memo.get? path).isSome → (doc.at? path).isSome
  depicts : ∀ g id, doc.Holds g → p.memo.get? g.path = some (.done id) →
    ∃ s, p.catalog.get? id = some s ∧ p.directory.Depicts doc g s
  failed : ∀ g, doc.Holds g → p.memo.get? g.path = some .failed → doc.ReachesInvalid g
  closed : ∀ id s, p.catalog.get? id = some s → ∀ r ∈ s.references, p.Fills r
  any : ∀ id, p.anyId = some id → p.catalog.get? id = some .anyValue
  any_unique : ∀ id s, p.catalog.get? id = some s → s.kind = .any → p.anyId = some id
  origin : ∀ id s, p.catalog.get? id = some s → id ∈ p.reserved.map (·.2) ∨ Synthesized s

namespace Coherent

theorem initial : ({} : Progress).Coherent doc [] where
  toLedger := .initial
  nodes path h := by simp [Memo.get?, Assoc.get?] at h
  depicts g id _ h := by simp [Memo.get?, Assoc.get?] at h
  failed g _ h := by simp [Memo.get?, Assoc.get?] at h
  closed id s h := by simp [Catalog.get?] at h
  any id h := by cases h
  any_unique id s h := by simp [Catalog.get?] at h
  origin id s h := by simp [Catalog.get?] at h

theorem lt_size_of_fills (h : p.Coherent doc stack) (hr : p.Fills r) :
    r.index < p.catalog.slots.size := by
  rcases hr with hr | ⟨path, hr⟩
  · obtain ⟨s, hs⟩ := Option.isSome_iff_exists.mp hr
    exact Catalog.lt_size_of_get? hs
  · exact h.lt_size_of_idOf? (idOf?_of_inProgress hr)

theorem fills_of_idOf? (h : p.Coherent doc stack) (hi : p.idOf? path = some id) :
    p.Fills id := by
  rcases idOf?_eq_some_iff.mp hi with hi | hd
  · exact .inr ⟨path, hi⟩
  · exact .inl (h.isSome_of_done hd)

theorem fills_of_any (h : p.Coherent doc stack) (ha : p.anyId = some id) : p.Fills id :=
  .inl (by simp [h.any id ha])

theorem fills_of_shows (h : p.Coherent doc stack) {slot : Path} (hs : p.directory.Shows doc slot id) :
    p.Fills id :=
  let ⟨_, _, hid⟩ := hs
  h.fills_of_idOf? hid

/-- What depicts a node refers to filled slots and nodes in progress. -/
theorem fills_of_depicts (h : p.Coherent doc stack) (hd : p.directory.Depicts doc f s)
    (hr : r ∈ s.references) : p.Fills r := by
  rcases hd.reference hr with ⟨slot, -, hs⟩ | ha | ⟨part, hp, -⟩
  · exact h.fills_of_shows hs
  · exact h.fills_of_any ha
  · exact .inl (Option.isSome_iff_exists.mpr ⟨part, hp⟩)

theorem of_eq (h : p.Coherent doc stack) (hc : p'.catalog = p.catalog) (hm : p'.memo = p.memo)
    (ha : p'.anyId = p.anyId) (hr : p'.reserved = p.reserved) (hf : p'.filled = p.filled) :
    p'.Coherent doc stack := by
  obtain ⟨c, m, a, ds, rs, fs⟩ := p
  obtain ⟨c', m', a', ds', rs', fs'⟩ := p'
  cases hc; cases hm; cases ha; cases hr; cases hf
  exact ⟨h.toLedger.of_slots rfl rfl rfl (Nat.le_refl _) fun _ _ => rfl, h.nodes, h.depicts, h.failed,
    h.closed, h.any, h.any_unique, h.origin⟩

theorem report (h : p.Coherent doc stack) (d : Diagnostic) : (p.report d).Coherent doc stack :=
  h.of_eq rfl rfl rfl rfl rfl

end Coherent

theorem Extends.report (p : Progress) (d : Diagnostic) : p.Extends (p.report d) :=
  .of_catalog rfl (fun _ h => h) (Nat.le_refl _) fun _ _ => rfl

theorem Extends.add (p : Progress) (s : Schema) {any? : Option SchemaId}
    (ha : ∀ id, p.anyId = some id → any? = some id) :
    p.Extends { p with catalog := p.catalog.add s, anyId := any? } := by
  refine .of_catalog rfl ha ?_ fun id hid => ?_
  · simp only [Catalog.size_slots_add, Nat.le_succ]
  · rw [Catalog.get?_add, if_neg (Catalog.ne_nextId hid)]

/-- A schema that no node describes is added, perhaps as that of any value. -/
theorem Coherent.add (h : p.Coherent doc stack) {any? : Option SchemaId} (hs : Synthesized s)
    (hr : ∀ r ∈ s.references, p.Fills r) (ha : ∀ id, p.anyId = some id → any? = some id)
    (ha' : ∀ id, any? = some id → p.anyId = some id ∨ id = p.catalog.nextId ∧ s = .anyValue)
    (hk : s.kind = .any → any? = some p.catalog.nextId) :
    Coherent doc stack { p with catalog := p.catalog.add s, anyId := any? } := by
  have hx := Extends.add p s ha
  refine ⟨h.toLedger.of_slots rfl rfl rfl hx.size_le fun id hid => hx.slot id (h.lt_size id hid),
    h.nodes, ?depicts, h.failed, ?closed, ?any, ?any_unique, ?origin⟩
  case depicts =>
    intro g id hg hd
    obtain ⟨t, ht, hdep⟩ := h.depicts g id hg hd
    exact ⟨t, hx.get? ht, hdep.mono hx.directory_le⟩
  case closed =>
    intro id t ht r hmem
    simp only [Catalog.get?_add] at ht
    split at ht
    · cases ht; exact hx.fills (hr r hmem)
    · exact hx.fills (h.closed id t ht r hmem)
  case any =>
    intro id hid
    rcases ha' id hid with hid | ⟨rfl, rfl⟩
    · exact hx.get? (h.any id hid)
    · simp [Catalog.get?_add]
  case any_unique =>
    intro id t ht hany
    simp only [Catalog.get?_add] at ht
    split at ht
    · rename_i hid; cases ht; rw [hid]; exact hk hany
    · exact ha id (h.any_unique id t ht hany)
  case origin =>
    intro id t ht
    simp only [Catalog.get?_add] at ht
    split at ht
    · cases ht; exact .inr hs
    · exact h.origin id t ht

theorem Extends.begin (h : p.memo.get? f.path = none) : p.Extends (p.begin f.path) where
  size_le := by simp only [Progress.begin, Catalog.reserve, Array.size_push, Nat.le_succ]
  slot id _ := p.get?_catalog_begin f.path id
  entry path e he := by
    have hne : f.path ≠ path := by rintro rfl; rw [h] at he; cases he
    rw [get?_memo_begin, if_neg hne, he]
  anyId _ h := h

theorem Coherent.begin (h : p.Coherent doc stack) (hf : doc.Holds f)
    (hn : p.memo.get? f.path = none) : (p.begin f.path).Coherent doc (f.path :: stack) := by
  have hx := Extends.begin hn
  have old : ∀ {g : Fragment} {e}, (p.begin f.path).memo.get? g.path = some e →
      (∀ id, e ≠ .inProgress id) → p.memo.get? g.path = some e := by
    intro g e he hne
    rw [get?_memo_begin] at he
    split at he
    · cases he; exact absurd rfl (hne _)
    · exact he
  refine ⟨h.toLedger.begin hn, ?nodes, ?depicts, ?failed, ?closed, ?any, ?any_unique, ?origin⟩
  case nodes =>
    intro path hs
    rw [get?_memo_begin] at hs
    split at hs
    · rename_i he; rw [← he, hf]; rfl
    · exact h.nodes path hs
  case depicts =>
    intro g id hg hd
    obtain ⟨t, ht, hdep⟩ := h.depicts g id hg (old hd (by simp))
    exact ⟨t, hx.get? ht, hdep.mono hx.directory_le⟩
  case failed =>
    intro g hg hd
    exact h.failed g hg (old hd (by simp))
  case closed =>
    intro id t ht r hmem
    rw [get?_catalog_begin] at ht
    exact hx.fills (h.closed id t ht r hmem)
  case any =>
    intro id hid
    rw [get?_catalog_begin]; exact h.any id hid
  case any_unique =>
    intro id t ht
    rw [get?_catalog_begin] at ht; exact h.any_unique id t ht
  case origin =>
    intro id t ht
    rw [get?_catalog_begin] at ht
    exact (h.origin id t ht).imp_left (List.mem_cons_of_mem _)

theorem Ledger.get?_complete (h : p.Ledger stack) (hi : p.memo.get? path = some (.inProgress id))
    {t : Schema} (hr : p.catalog.get? r = some t) :
    (p.complete path id s).catalog.get? r = some t := by
  have hne : r ≠ id := by
    rintro rfl
    rw [h.eq_none_of_inProgress hi] at hr; cases hr
  rw [get?_catalog_complete _ _ _ (h.lt_size_of_idOf? (idOf?_of_inProgress hi)), if_neg hne, hr]

theorem Ledger.directory_le_complete (h : p.Ledger stack)
    (hi : p.memo.get? path = some (.inProgress id)) :
    p.directory.Le (p.complete path id s).directory := by
  refine ⟨fun path' r hr => ?_, fun _ _ => h.get?_complete hi, fun _ ha => ha⟩
  by_cases he : path = path'
  · subst he
    cases (idOf?_of_inProgress hi).symm.trans hr
    exact idOf?_of_done (by rw [get?_memo_complete, if_pos rfl])
  · simpa [directory, idOf?, get?_memo_complete, he] using hr

theorem Ledger.fills_complete (h : p.Ledger stack) (hi : p.memo.get? path = some (.inProgress id))
    (hr : p.Fills r) : (p.complete path id s).Fills r := by
  rcases hr with hr | ⟨path', hr⟩
  · obtain ⟨t, ht⟩ := Option.isSome_iff_exists.mp hr
    exact .inl (Option.isSome_iff_exists.mpr ⟨t, h.get?_complete hi ht⟩)
  · by_cases he : path = path'
    · subst he
      rw [hi] at hr; cases hr
      refine .inl (Option.isSome_iff_exists.mpr ⟨s, ?_⟩)
      rw [get?_catalog_complete _ _ _ (h.lt_size_of_idOf? (idOf?_of_inProgress hi)), if_pos rfl]
    · exact .inr ⟨path', by rw [get?_memo_complete, if_neg he, hr]⟩

theorem Coherent.complete (h : p.Coherent doc (f.path :: stack)) (hp : f.path ∉ stack)
    (hf : doc.Holds f) (hi : p.memo.get? f.path = some (.inProgress id))
    (hd : p.directory.Depicts doc f s) : (p.complete f.path id s).Coherent doc stack := by
  have hget := p.get?_catalog_complete f.path s (h.lt_size_of_idOf? (idOf?_of_inProgress hi))
  have hle := h.directory_le_complete hi (s := s)
  refine ⟨h.toLedger.complete hp hi s, ?nodes, ?depicts, ?failed, ?closed, ?any, ?any_unique,
    ?origin⟩
  case nodes =>
    intro path hs
    rw [get?_memo_complete] at hs
    split at hs
    · rename_i he; rw [← he, hf]; rfl
    · exact h.nodes path hs
  case depicts =>
    intro g j hg hdone
    rw [get?_memo_complete] at hdone
    split at hdone
    · rename_i he
      cases hdone
      cases hf.eq hg he
      exact ⟨s, by rw [hget, if_pos rfl], hd.mono hle⟩
    · obtain ⟨t, ht, hdep⟩ := h.depicts g j hg hdone
      exact ⟨t, h.get?_complete hi ht, hdep.mono hle⟩
  case failed =>
    intro g hg hfail
    rw [get?_memo_complete] at hfail
    split at hfail
    · cases hfail
    · exact h.failed g hg hfail
  case closed =>
    intro j t ht r hr
    rw [hget] at ht
    split at ht
    · cases ht; exact h.fills_complete hi (h.fills_of_depicts hd hr)
    · exact h.fills_complete hi (h.closed j t ht r hr)
  case any =>
    intro j ha
    exact h.get?_complete hi (h.any j ha)
  case any_unique =>
    intro j t ht hk
    rw [hget] at ht
    split at ht
    · cases ht; exact absurd hk hd.kind_ne_any
    · exact h.any_unique j t ht hk
  case origin =>
    intro j t ht
    rw [hget] at ht
    split at ht
    · rename_i he
      subst he
      exact .inl (List.mem_map.mpr ⟨_, h.mem_reserved (idOf?_of_inProgress hi), rfl⟩)
    · exact h.origin j t ht

/-- The slot of the node was filled; all else that was known before it was taken is as it was. -/
theorem Extends.complete (hn : p.memo.get? f.path = none) (hx : (p.begin f.path).Extends p') :
    p.Extends (p'.complete f.path p.catalog.nextId s) where
  size_le := by
    simp only [Progress.complete, Catalog.fill, Array.size_setIfInBounds]
    exact ((Extends.begin hn).trans hx).size_le
  slot id hid := by
    have hlt : p.catalog.nextId.index < p'.catalog.slots.size :=
      Nat.lt_of_lt_of_le (by simp [Progress.begin, Catalog.reserve, Catalog.nextId]) hx.size_le
    rw [get?_catalog_complete _ _ _ hlt, if_neg (Catalog.ne_nextId hid)]
    exact ((Extends.begin hn).trans hx).slot id hid
  entry path e he := by
    have hne : f.path ≠ path := by rintro rfl; rw [hn] at he; cases he
    rw [get?_memo_complete, if_neg hne]
    exact ((Extends.begin hn).trans hx).entry path e he
  anyId id hid := ((Extends.begin hn).trans hx).anyId id hid

/-! ### Nothing in progress -/

theorem Coherent.not_inProgress (h : p.Coherent doc []) (path : Path) (id : SchemaId) :
    p.memo.get? path ≠ some (.inProgress id) :=
  fun hi => List.not_mem_nil ((h.mem_stack path).mpr ⟨id, hi⟩)

theorem Coherent.idOf?_eq_some_iff_done (h : p.Coherent doc []) :
    p.idOf? path = some id ↔ p.memo.get? path = some (.done id) := by
  rw [idOf?_eq_some_iff]
  exact ⟨fun hi => hi.resolve_left (h.not_inProgress path id), .inr⟩

theorem Coherent.isSome_of_fills (h : p.Coherent doc []) (hf : p.Fills id) :
    (p.catalog.get? id).isSome :=
  hf.resolve_right fun ⟨path, hi⟩ => h.not_inProgress path id hi

/-- A filled slot that a node took is that of one node that is done. -/
theorem Coherent.existsUnique_done (h : p.Coherent doc []) (hs : (p.catalog.get? id).isSome)
    (hr : id ∈ p.reserved.map (·.2)) : ∃! path, p.memo.get? path = some (.done id) := by
  obtain ⟨⟨path, _⟩, hm, rfl⟩ := List.mem_map.mp hr
  refine ⟨path, ?_, fun path' hd => h.eq_of_reserved (h.mem_reserved (idOf?_of_done hd)) hm⟩
  rcases h.agrees path _ hm with ⟨hi, -⟩ | ⟨hd, -⟩ | ⟨-, hn⟩
  · exact absurd hi (h.not_inProgress _ _)
  · exact hd
  · simp only [hn, Option.isSome_none, Bool.false_eq_true] at hs

theorem Coherent.not_done_of_not_reserved (h : p.Coherent doc [])
    (hr : id ∉ p.reserved.map (·.2)) : p.memo.get? path ≠ some (.done id) :=
  fun hd => hr (List.mem_map.mpr ⟨_, h.mem_reserved (idOf?_of_done hd), rfl⟩)

theorem Coherent.le_finished (h : p.Coherent doc []) : p.directory.Le p.finished :=
  ⟨fun _ _ hid => h.idOf?_eq_some_iff_done.mp hid, fun _ _ hs => hs, fun _ ha => ha⟩

/-- What a node that is done depends on is done. -/
theorem Coherent.done_of_depends (h : p.Coherent doc []) (hf : doc.Holds f)
    (hd : p.memo.get? f.path = some (.done id)) (hg : doc.Depends f g) :
    ∃ id, p.memo.get? g.path = some (.done id) := by
  obtain ⟨slot, hm, t, ht, rfl⟩ := hg
  obtain ⟨s, -, hdep⟩ := h.depicts f id hf hd
  obtain ⟨id', -, t', ht', hid⟩ := hdep.exists_shows hm
  cases ht.symm.trans ht'
  exact ⟨id', h.idOf?_eq_some_iff_done.mp hid⟩

theorem Coherent.not_reachesInvalid_of_done (h : p.Coherent doc []) (hf : doc.Holds f)
    (hd : p.memo.get? f.path = some (.done id)) : ¬ doc.ReachesInvalid f := by
  rintro ⟨g, hr, hi⟩
  induction hr using Relation.ReflTransGen.head_induction_on generalizing id with
  | refl =>
    obtain ⟨s, -, hdep⟩ := h.depicts g id hf hd
    exact hdep.not_invalid hi
  | head hstep _ ih =>
    obtain ⟨id', hd'⟩ := h.done_of_depends hf hd hstep
    exact ih hstep.holds hd'

end Progress

end ApiModel

import ApiModel.Proofs.PreservedRuns

/-!
# Parts and their owners

A part is stored for an object that has several, and has no node of its own. Its owner is the node of
that object: the part is what a keyword of the owner says, and only the slot of the owner may refer to
it (`Progress.Owner`). The slot lists the part among its members, unless the owner has failed since.

While an object is put together its parts are stored already and its slot is still empty; no node below
is classified at that time, so `Owned` holds whenever a classification begins or ends, and `Awaits` is
what holds between the last of the parts and the slot.
-/

namespace ApiModel

open Classify (Section)

instance (sec : Section) (kind : Schema.Kind) : Decidable (sec.Makes kind) := by
  unfold Section.Makes
  split <;> infer_instance

/-- A schema with the kind and the name of what a keyword of an object makes. -/
def Schema.IsPart (s : Schema) : Prop :=
  ∃ sec ∈ Section.all, sec.Makes s.kind ∧ ("." ++ sec.key).toList <:+ s.name.toList

instance : DecidablePred Schema.IsPart := fun s =>
  inferInstanceAs (Decidable (∃ sec ∈ Section.all,
    sec.Makes s.kind ∧ ("." ++ sec.key).toList <:+ s.name.toList))

theorem Schema.not_isPart_of_kind {s : Schema} (h : ∀ sec : Section, ¬ sec.Makes s.kind) :
    ¬ s.IsPart := by
  rintro ⟨sec, -, hm, -⟩
  exact h sec hm

/-- The object that gathers the fields of a form has the kind of a part, but not the name. -/
theorem Schema.not_isPart_form (name : String) (fields : List Property) :
    ¬ (Schema.undescribed (name ++ "Body") (.object fields none none)).IsPart := by
  rintro ⟨sec, -, hm, hname⟩
  cases sec with
  | properties =>
    have hlast := hname.getLast (by decide)
    simp [Schema.undescribed, Section.key] at hlast
  | additionalProperties | anyOf | oneOf => exact hm

theorem not_makes_of_shape {v : Json} {type : JsonType} {format : Format} {kind : Schema.Kind}
    (h : v.shape type format = .plain kind) (sec : Section) : ¬ sec.Makes kind := by
  cases type <;> cases format <;> simp only [Json.shape, reduceCtorEq, Shape.plain.injEq] at h <;>
    subst h <;> cases sec <;> exact id

theorem not_makes_of_choiceKind? {v : Json} {kind : Schema.Kind} (h : v.choiceKind? = some kind)
    (sec : Section) : ¬ sec.Makes kind := by
  unfold Json.choiceKind? at h
  split at h
  · rename_i hk
    cases h
    obtain ⟨type, -, hs⟩ := Option.map_eq_some_iff.mp hk
    exact not_makes_of_shape hs sec
  · cases h

namespace Progress

variable {doc : Document} {stack : List Path} {p p' : Progress} {f g : Fragment} {path : Path}
  {id k r : SchemaId} {ids : List SchemaId} {s t : Schema}

/-- The slot holds a part: no node took it, and its schema is like one. -/
structure PartAt (p : Progress) (id : SchemaId) : Prop where
  filled : ∃ s, p.catalog.get? id = some s ∧ s.IsPart
  free : id ∉ p.reserved.map (·.2)

/-- The slot holds what a keyword of the node says. -/
def Made (doc : Document) (p : Progress) (id : SchemaId) (f : Fragment) : Prop :=
  ∃ (name : String) (sec : Section) (kind : Schema.Kind),
    p.catalog.get? id = some (.undescribed s!"{name}.{sec.key}" kind) ∧
      p.directory.DepictsSection doc f sec (some kind)

def Lists (p : Progress) (k id : SchemaId) : Prop :=
  ∃ t members, p.catalog.get? k = some t ∧ t.kind = .allOf members ∧ id ∈ members

/-- The node that took the slot `k` owns the part `id`. -/
structure Owner (doc : Document) (p : Progress) (id : SchemaId) (f : Fragment) (k : SchemaId) :
    Prop where
  holds : doc.Holds f
  took : (f.path, k) ∈ p.reserved
  made : p.Made doc id f
  only : ∀ j t, p.catalog.get? j = some t → id ∈ t.references → j = k
  fate : p.memo.get? f.path = some .failed ∨ p.Lists k id

def Owned (doc : Document) (p : Progress) : Prop := ∀ id, p.PartAt id → ∃ f k, p.Owner doc id f k

/-- Every part has an owner, but those among `ids`, which were made for the node and to which nothing
refers yet. -/
def OwnedBut (doc : Document) (p : Progress) (f : Fragment) (ids : List SchemaId) : Prop :=
  ∀ id, p.PartAt id → id ∉ ids ∧ (∃ g k, p.Owner doc id g k) ∨
    id ∈ ids ∧ p.Made doc id f ∧ ∀ j t, p.catalog.get? j = some t → id ∉ t.references

/-- As soon as the slot of the node holds the schema, every part has an owner. -/
def Awaits (doc : Document) (p : Progress) (f : Fragment) (s : Schema) : Prop :=
  ∃ ids, p.OwnedBut doc f ids ∧ (∀ id ∈ ids, ∃ members, s.kind = .allOf members ∧ id ∈ members) ∧
    ∀ r ∈ s.references, p.PartAt r → r ∈ ids

theorem not_partAt (hs : p.catalog.get? id = some s) (hn : ¬ s.IsPart) : ¬ p.PartAt id := by
  rintro ⟨⟨s', hs', hp⟩, -⟩
  cases hs.symm.trans hs'
  exact hn hp

theorem Coherent.not_partAt_of_shows (h : p.Coherent doc stack) {slot : Path}
    (hr : p.directory.Shows doc slot r) : ¬ p.PartAt r := by
  obtain ⟨t, -, hid⟩ := hr
  exact fun hp => hp.free (List.mem_map.mpr ⟨_, h.mem_reserved hid, rfl⟩)

theorem Coherent.not_partAt_of_any (h : p.Coherent doc stack) (ha : p.anyId = some r) :
    ¬ p.PartAt r :=
  not_partAt (h.any r ha) (Schema.not_isPart_of_kind fun sec => by cases sec <;> exact id)

theorem Coherent.not_partAt_of_depictsSection (h : p.Coherent doc stack)
    (hf : f.value.form = .object) {sec : Section} {kind : Schema.Kind}
    (hd : p.directory.DepictsSection doc f sec (some kind)) (hr : r ∈ kind.references) :
    ¬ p.PartAt r := by
  rcases hd.below_or_any hf hr with ⟨slot, -, hs⟩ | ha
  · exact h.not_partAt_of_shows hs
  · exact h.not_partAt_of_any ha

theorem PartAt.of_eq (h : p'.PartAt id) (hc : p'.catalog.get? id = p.catalog.get? id)
    (hr : ∀ x ∈ p.reserved, x ∈ p'.reserved) : p.PartAt id := by
  obtain ⟨⟨s, hs, hp⟩, hfree⟩ := h
  refine ⟨⟨s, hc.symm.trans hs, hp⟩, fun hm => hfree ?_⟩
  obtain ⟨x, hx, he⟩ := List.mem_map.mp hm
  exact List.mem_map.mpr ⟨x, hr x hx, he⟩

/-! ### Later states -/

theorem Made.mono (hle : p.directory.Le p'.directory) (h : p.Made doc id f) : p'.Made doc id f := by
  obtain ⟨name, sec, kind, hs, hd⟩ := h
  exact ⟨name, sec, kind, hle.schema? _ _ hs, hd.mono hle⟩

theorem Lists.mono (hle : p.directory.Le p'.directory) (h : p.Lists k id) : p'.Lists k id := by
  obtain ⟨t, members, ht, hk⟩ := h
  exact ⟨t, members, hle.schema? _ _ ht, hk⟩

/-- An owner stays one where what was known is kept and no new schema refers to the part. -/
theorem Owner.mono (hle : p.directory.Le p'.directory) (h : p.Owner doc id f k)
    (hr : ∀ x ∈ p.reserved, x ∈ p'.reserved)
    (hf : ∀ path, p.memo.get? path = some .failed → p'.memo.get? path = some .failed)
    (hnew : ∀ j t, p'.catalog.get? j = some t → p.catalog.get? j = some t ∨ id ∉ t.references) :
    p'.Owner doc id f k where
  holds := h.holds
  took := hr _ h.took
  made := h.made.mono hle
  only j t ht hid := by
    rcases hnew j t ht with ht | hn
    · exact h.only j t ht hid
    · exact absurd hid hn
  fate := h.fate.imp (hf _) (·.mono hle)

theorem Owned.initial : ({} : Progress).Owned doc := by
  rintro id ⟨⟨s, hs, -⟩, -⟩
  simp [Catalog.get?] at hs

theorem Owned.report (h : p.Owned doc) (d : Diagnostic) : (p.report d).Owned doc := by
  intro id hp
  obtain ⟨f, k, ho⟩ := h id (hp.of_eq rfl fun _ hx => hx)
  exact ⟨f, k, ho.mono (Extends.report p d).directory_le (fun _ hx => hx) (fun _ hf => hf)
    fun _ _ ht => .inl ht⟩

theorem Owned.begin (h : p.Owned doc) (hn : p.memo.get? f.path = none) :
    (p.begin f.path).Owned doc := by
  intro id hp
  have hx := Extends.begin hn
  obtain ⟨g, k, ho⟩ := h id (hp.of_eq (p.get?_catalog_begin f.path id) fun _ =>
    List.mem_cons_of_mem _)
  refine ⟨g, k, ho.mono hx.directory_le (fun _ => List.mem_cons_of_mem _) (fun path => ?_)
    fun j t ht => .inl ?_⟩
  · exact hx.entry path _
  · rwa [get?_catalog_begin] at ht

/-- A schema is added that is no part and refers to none. -/
theorem Owned.add (h : p.Owned doc) {any? : Option SchemaId}
    (ha : ∀ id, p.anyId = some id → any? = some id) (hs : ¬ s.IsPart)
    (hr : ∀ r ∈ s.references, ¬ p.PartAt r) :
    Owned doc { p with catalog := p.catalog.add s, anyId := any? } := by
  intro id hp
  have hne : id ≠ p.catalog.nextId := by
    rintro rfl
    exact not_partAt (by simp [Catalog.get?_add]) hs hp
  have hp' : p.PartAt id :=
    hp.of_eq (by simp only [Catalog.get?_add, if_neg hne]) fun _ hx => hx
  obtain ⟨g, k, ho⟩ := h id hp'
  refine ⟨g, k, ho.mono (Extends.add p s ha).directory_le (fun _ hx => hx) (fun _ hf => hf) ?_⟩
  intro j t ht
  simp only [Catalog.get?_add] at ht
  split at ht
  · cases ht; exact .inr fun hid => hr id hid hp'
  · exact .inl ht

/-- The next part of an object is added. -/
theorem OwnedBut.add (h : p.OwnedBut doc f ids) (hc : p.Coherent doc stack)
    (hf : f.value.form = .object) (name : String) {sec : Section} {kind : Schema.Kind}
    (hd : p.directory.DepictsSection doc f sec (some kind)) :
    OwnedBut doc { p with
      catalog := p.catalog.add (.undescribed s!"{name}.{sec.key}" kind) } f
      (ids ++ [p.catalog.nextId]) := by
  have hx := Extends.add p (.undescribed s!"{name}.{sec.key}" kind) fun _ h => h
  have hrefs : ∀ r ∈ kind.references, ¬ p.PartAt r := fun r => hc.not_partAt_of_depictsSection hf hd
  -- What is stored refers to slots that were there before this one.
  have hfresh : ∀ j t, p.catalog.get? j = some t → p.catalog.nextId ∉ t.references := fun j t ht hm =>
    Nat.lt_irrefl _ (hc.lt_size_of_fills (hc.closed j t ht _ hm))
  have hself : p.catalog.nextId ∉ kind.references := by
    intro hm
    rcases hd.below_or_any hf hm with ⟨slot, -, hs⟩ | ha
    · exact Nat.lt_irrefl _ (hc.lt_size_of_fills (hc.fills_of_shows hs))
    · exact Nat.lt_irrefl _ (hc.lt_size_of_fills (hc.fills_of_any ha))
  intro id hp
  by_cases he : id = p.catalog.nextId
  · subst he
    refine .inr ⟨by simp, ⟨name, sec, kind, by simp [Catalog.get?_add], hd.mono hx.directory_le⟩, ?_⟩
    intro j t ht
    simp only [Catalog.get?_add] at ht
    split at ht
    · cases ht; exact hself
    · exact hfresh j t ht
  · have hp' : p.PartAt id :=
      hp.of_eq (by simp only [Catalog.get?_add, if_neg he]) fun _ hx => hx
    have hnew : ∀ j t, (p.catalog.add (.undescribed s!"{name}.{sec.key}" kind)).get? j = some t →
        p.catalog.get? j = some t ∨ id ∉ t.references := by
      intro j t ht
      rw [Catalog.get?_add] at ht
      split at ht
      · cases ht; exact .inr fun hid => hrefs id hid hp'
      · exact .inl ht
    rcases h id hp' with ⟨hid, g, k, ho⟩ | ⟨hid, hm, hun⟩
    · exact .inl ⟨by simp [hid, he], g, k,
        ho.mono hx.directory_le (fun _ hx => hx) (fun _ hf => hf) hnew⟩
    · refine .inr ⟨by simp [hid], hm.mono hx.directory_le, fun j t ht => ?_⟩
      exact (hnew j t ht).elim (hun j t) fun hn => hn

theorem Awaits.of_owned (h : p.Owned doc) (hr : ∀ r ∈ s.references, ¬ p.PartAt r) :
    p.Awaits doc f s :=
  ⟨[], fun id hp => .inl ⟨List.not_mem_nil, h id hp⟩, fun _ hid => (List.not_mem_nil hid).elim,
    fun r hm hp => absurd hp (hr r hm)⟩

/-- The parts of the node get it as their owner. -/
theorem Awaits.complete (h : p.Awaits doc f s) (hc : p.Coherent doc (f.path :: stack))
    (hf : doc.Holds f) (hi : p.memo.get? f.path = some (.inProgress k)) :
    (p.complete f.path k s).Owned doc := by
  obtain ⟨ids, hbut, hmembers, hrefs⟩ := h
  have hget := p.get?_catalog_complete f.path s (hc.lt_size_of_idOf? (idOf?_of_inProgress hi))
  have hle := hc.directory_le_complete hi (s := s)
  have hmem := hc.mem_reserved (idOf?_of_inProgress hi)
  have hfailed : ∀ path, p.memo.get? path = some .failed →
      (p.complete f.path k s).memo.get? path = some .failed := by
    intro path hfail
    have hne : f.path ≠ path := by rintro rfl; rw [hi] at hfail; cases hfail
    rw [get?_memo_complete, if_neg hne, hfail]
  intro id hp
  have hne : id ≠ k := by
    rintro rfl
    exact hp.free (List.mem_map.mpr ⟨_, hmem, rfl⟩)
  have hp' : p.PartAt id := hp.of_eq (by rw [hget, if_neg hne]) fun _ hx => hx
  rcases hbut id hp' with ⟨hid, g, j, ho⟩ | ⟨hid, hm, hun⟩
  · refine ⟨g, j, ho.mono hle (fun _ hx => hx) hfailed fun i t ht => ?_⟩
    rw [hget] at ht
    split at ht
    · cases ht; exact .inr fun hr => hid (hrefs id hr hp')
    · exact .inl ht
  · refine ⟨f, k, hf, hmem, hm.mono hle, fun i t ht hr => ?_, .inr ?_⟩
    · rw [hget] at ht
      split at ht
      · assumption
      · exact absurd hr (hun i t ht)
    · obtain ⟨members, hkind, hin⟩ := hmembers id hid
      exact ⟨s, members, by rw [hget, if_pos rfl], hkind, hin⟩

/-- A part whose owner is withdrawn stays behind if nothing that it refers to is withdrawn. -/
theorem Owned.abandon (h : p.Owned doc) (hc : p.Coherent doc (f.path :: stack))
    (hi : p.memo.get? f.path = some (.inProgress id))
    (hold : ∀ j t, j.index < id.index → p.catalog.get? j = some t →
      ∀ r ∈ t.references, r.index < id.index) :
    (p.abandon f.path id).Owned doc := by
  have hid := idOf?_of_inProgress hi
  have hgone : ∀ {path}, p.memo.get? path = some .failed ∨
      (∃ w ∈ (p.catalog.withdraw id).1, p.memo.get? path = some (.done w)) →
      (p.abandon f.path id).memo.get? path = some .failed := by
    intro path hfail
    rw [get?_memo_abandon]
    split
    · rfl
    · exact Memo.map_failValues_eq_failed_iff.mpr hfail
  intro q hp
  obtain ⟨t, ht, -⟩ := hp.filled
  have hq := get?_catalog_abandon_eq_some_iff.mp ht
  have hp' : p.PartAt q := hp.of_eq (ht.trans hq.1.symm) fun _ hx => hx
  obtain ⟨g, k, ho⟩ := h q hp'
  refine ⟨g, k, ho.holds, ho.took, ?_, fun j t ht => ?_, ?_⟩
  · obtain ⟨name, sec, kind, hs, hd⟩ := ho.made
    have hs' : (p.abandon f.path id).catalog.get? q =
        some (.undescribed s!"{name}.{sec.key}" kind) :=
      get?_catalog_abandon_eq_some_iff.mpr ⟨hs, hq.2⟩
    refine ⟨name, sec, kind, hs', hd.of_references ?_ fun _ ha => ha⟩
    intro kind' hk r hr path hpath
    cases hk
    have hkept := Catalog.kept_of_withdraw (hc.eq_none_of_inProgress hi) hold hs' hr
    exact idOf?_abandon hid hpath hkept.1 hkept.2
  · exact ho.only j t (get?_catalog_abandon_eq_some_iff.mp ht).1
  · rcases ho.fate with hfail | ⟨t, members, ht, hm⟩
    · exact .inl (hgone (.inl hfail))
    · by_cases hw : k ∈ (p.catalog.withdraw id).1
      · refine .inl (hgone (.inr ⟨k, hw, ?_⟩))
        rcases hc.agrees _ _ ho.took with ⟨-, hn⟩ | ⟨hd, -⟩ | ⟨-, hn⟩
        · rw [ht] at hn; cases hn
        · exact hd
        · rw [ht] at hn; cases hn
      · exact .inr ⟨t, members, get?_catalog_abandon_eq_some_iff.mpr ⟨ht, hw⟩, hm⟩

end Progress

end ApiModel

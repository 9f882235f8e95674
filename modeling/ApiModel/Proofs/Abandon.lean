import ApiModel.Proofs.Coherence

/-!
# Giving a node up

A node that is given up takes with it what depends on its slot. Each of the schemas that are withdrawn
is to blame (`Blamed`): the nodes that refer to it reach the node that failed, so they fail rightly.
What is left refers to nothing that was withdrawn, and so the progress stays coherent.
-/

namespace ApiModel.Progress

variable {doc : Document} {stack : List Path} {p p' : Progress} {f g : Fragment} {id r : SchemaId}
  {s : Schema}

/-- The nodes of the slot, and those done whose schema refers to it, reach an invalid node. -/
structure Blamed (doc : Document) (p : Progress) (r : SchemaId) : Prop where
  not_any : p.anyId ≠ some r
  node : ∀ g, doc.Holds g → p.idOf? g.path = some r → doc.ReachesInvalid g
  referrer : ∀ g id s, doc.Holds g → p.memo.get? g.path = some (.done id) →
    p.catalog.get? id = some s → r ∈ s.references → doc.ReachesInvalid g

namespace Blamed

theorem below (h : Blamed doc p r) (hr : p.directory.Below doc g r ∨ p.anyId = some r) :
    doc.ReachesInvalid g := by
  rcases hr with ⟨slot, hm, t, ht, hid⟩ | ha
  · have hdep : doc.Depends g t.toFragment := ⟨slot, hm, t, ht, rfl⟩
    exact hdep.reaches (h.node _ hdep.holds hid)
  · exact absurd ha h.not_any

/-- A node that is done refers to what it depends on, to any value or to a part of its own; blame for
the first two is known from the slot, so only the parts are left to look at. -/
theorem of_parts (h : p.Coherent doc stack) (hany : p.anyId ≠ some r)
    (hnode : ∀ g, doc.Holds g → p.idOf? g.path = some r → doc.ReachesInvalid g)
    (hpart : ∀ g part, p.catalog.get? r = some part →
      (∀ id ∈ part.references, p.directory.Below doc g id ∨ p.anyId = some id) →
      doc.ReachesInvalid g) : Blamed doc p r := by
  refine ⟨hany, hnode, fun g j s hg hd hs hmem => ?_⟩
  obtain ⟨s', hs', hdep⟩ := h.depicts g j hg hd
  cases hs.symm.trans hs'
  rcases hdep.reference hmem with ⟨slot, hm, t, ht, hid⟩ | ha | ⟨part, hp, hbelow⟩
  · have hstep : doc.Depends g t.toFragment := ⟨slot, hm, t, ht, rfl⟩
    exact hstep.reaches (hnode _ hstep.holds hid)
  · exact absurd ha hany
  · exact hpart g part hp hbelow

/-- The slot of a node that is given up while it is in progress. -/
theorem of_inProgress (h : p.Coherent doc stack) (hf : doc.Holds f)
    (hi : p.memo.get? f.path = some (.inProgress id)) (hr : doc.ReachesInvalid f) :
    Blamed doc p id := by
  have hnone := h.eq_none_of_inProgress hi
  refine of_parts h ?_ ?_ ?_
  · intro ha
    rw [h.any id ha] at hnone; cases hnone
  · intro g hg hid
    rwa [hg.eq hf (h.eq_of_idOf? hid (idOf?_of_inProgress hi))]
  · intro g part hp
    rw [hnone] at hp; cases hp

/-- Blame is passed on from a slot to the schemas that refer to it. -/
theorem of_reference (h : p.Coherent doc stack) (hr : Blamed doc p r)
    (hs : p.catalog.get? id = some s) (hmem : r ∈ s.references) : Blamed doc p id := by
  refine of_parts h ?_ ?_ ?_
  · intro ha
    cases hs.symm.trans (h.any id ha)
    cases hmem
  · intro g hg hid
    exact hr.referrer g id s hg (h.done_of_idOf? hid (by simp [hs])) hs hmem
  · intro g part hp hbelow
    cases hs.symm.trans hp
    exact hr.below (hbelow r hmem)

/-- All slots that a withdrawal empties are to blame, if those in progress other than the one given
up lie before it. -/
theorem of_dependent (h : p.Coherent doc (f.path :: stack)) (hf : doc.Holds f)
    (hi : p.memo.get? f.path = some (.inProgress id)) (hr : doc.ReachesInvalid f)
    (hlt : ∀ path ∈ stack, ∀ r, p.memo.get? path = some (.inProgress r) → r.index < id.index)
    {w : SchemaId} (hd : p.catalog.Dependent id w) : Blamed doc p w := by
  induction hd with
  | @empty w r t _ ht hmem hle hnone =>
    -- An empty slot that something refers to is in progress, and all but `id` lie before it.
    have hrid : r = id := by
      rcases h.closed w t ht r hmem with hs | ⟨path, hpath⟩
      · simp [hnone] at hs
      · rcases List.mem_cons.mp ((h.mem_stack path).mpr ⟨r, hpath⟩) with rfl | hm
        · rw [hi] at hpath; cases hpath; rfl
        · exact absurd (hlt path hm r hpath) (Nat.not_lt.mpr hle)
    subst hrid
    exact (of_inProgress h hf hi hr).of_reference h ht hmem
  | through _ ht hmem _ ih => exact ih.of_reference h ht hmem

end Blamed

/-- A node is given up. The slots before its own belong to schemas that refer to nothing later. -/
theorem Coherent.abandon (h : p.Coherent doc (f.path :: stack)) (hp : f.path ∉ stack)
    (hf : doc.Holds f) (hi : p.memo.get? f.path = some (.inProgress id))
    (hr : doc.ReachesInvalid f)
    (hlt : ∀ path ∈ stack, ∀ r, p.memo.get? path = some (.inProgress r) → r.index < id.index)
    (hold : ∀ j t, j.index < id.index → p.catalog.get? j = some t →
      ∀ r ∈ t.references, r.index < id.index) :
    (p.abandon f.path id).Coherent doc stack := by
  have hid := idOf?_of_inProgress hi
  have kept : ∀ {j t r}, (p.abandon f.path id).catalog.get? j = some t → r ∈ t.references →
      r ≠ id ∧ r ∉ (p.catalog.withdraw id).1 :=
    fun hj hr => Catalog.kept_of_withdraw (h.eq_none_of_inProgress hi) hold hj hr
  refine ⟨h.toLedger.abandon hp hi, ?nodes, ?depicts, ?failed, ?closed, ?any, ?any_unique, ?origin⟩
  case nodes =>
    intro path hs
    rw [get?_memo_abandon] at hs
    split at hs
    · rename_i he; rw [← he, hf]; rfl
    · exact h.nodes path (by simpa using hs)
  case depicts =>
    intro g j hg hd
    rw [get?_memo_abandon] at hd
    split at hd
    · cases hd
    obtain ⟨hd, hw⟩ := Memo.map_failValues_eq_done_iff.mp hd
    obtain ⟨t, ht, hdep⟩ := h.depicts g j hg hd
    have ht' : (p.abandon f.path id).catalog.get? j = some t :=
      get?_catalog_abandon_eq_some_iff.mpr ⟨ht, hw⟩
    have hpart : ∀ r ∈ t.references, ∀ part, p.catalog.get? r = some part →
        (p.abandon f.path id).catalog.get? r = some part :=
      fun r hr part hp => get?_catalog_abandon_eq_some_iff.mpr ⟨hp, (kept ht' hr).2⟩
    -- A depiction needs its references and those of its parts, and all of these are kept.
    refine ⟨t, ht', hdep.of_inReach ?_ hpart fun _ ha => ha⟩
    rintro r (hr | ⟨q, hq, part, hp, hr⟩) path hpath
    · exact idOf?_abandon hid hpath (kept ht' hr).1 (kept ht' hr).2
    · have hr' := kept (hpart q hq part hp) hr
      exact idOf?_abandon hid hpath hr'.1 hr'.2
  case failed =>
    intro g hg hfail
    rw [get?_memo_abandon] at hfail
    split at hfail
    · rename_i he; rwa [hg.eq hf he.symm]
    · rcases Memo.map_failValues_eq_failed_iff.mp hfail with hfail | ⟨w, hw, hd⟩
      · exact h.failed g hg hfail
      · have hdep := Catalog.dependent_of_mem_withdraw hw
        exact (Blamed.of_dependent h hf hi hr hlt hdep).node g hg (idOf?_of_done hd)
  case closed =>
    intro j t ht r hmem
    obtain ⟨hne, hw⟩ := kept ht hmem
    rcases h.closed j t (get?_catalog_abandon_eq_some_iff.mp ht).1 r hmem with hs | ⟨path, hpath⟩
    · refine .inl ?_
      rwa [get?_catalog_abandon, if_neg hw]
    · refine .inr ⟨path, ?_⟩
      have hpath' : f.path ≠ path := by
        rintro rfl
        rw [hi] at hpath; cases hpath; exact hne rfl
      rw [get?_memo_abandon, if_neg hpath', hpath]; rfl
  case any =>
    intro a ha
    refine get?_catalog_abandon_eq_some_iff.mpr ⟨h.any a ha, fun hw => ?_⟩
    obtain ⟨t, ht, hne⟩ := (Catalog.dependent_of_mem_withdraw hw).filled
    cases (h.any a ha).symm.trans ht
    exact hne rfl
  case any_unique =>
    intro j t ht
    exact h.any_unique j t (get?_catalog_abandon_eq_some_iff.mp ht).1
  case origin =>
    intro j t ht
    exact h.origin j t (get?_catalog_abandon_eq_some_iff.mp ht).1

/-! ### What was known before the slot was taken -/

/-- Nothing that was known before a slot was taken is lost when its node is given up. -/
theorem Extends.abandon (h : p.Coherent doc stack) (hn : p.memo.get? f.path = none)
    (hx : (p.begin f.path).Extends p') :
    p.Extends (p'.abandon f.path p.catalog.nextId) where
  size_le := by
    rw [size_slots_abandon]
    exact ((Extends.begin hn).trans hx).size_le
  slot id hid := by
    have hw : id ∉ (p'.catalog.withdraw p.catalog.nextId).1 := Catalog.not_mem_withdraw_of_lt hid
    rw [get?_catalog_abandon, if_neg hw]
    exact ((Extends.begin hn).trans hx).slot id hid
  entry path e he := by
    have hne : f.path ≠ path := by rintro rfl; rw [hn] at he; cases he
    rw [get?_memo_abandon, if_neg hne, ((Extends.begin hn).trans hx).entry path e he]
    cases e with
    | inProgress | failed => rfl
    | done id =>
      have hlt := h.lt_size_of_idOf? (idOf?_of_done he)
      exact Memo.map_failValues_eq_done_iff.mpr ⟨rfl, Catalog.not_mem_withdraw_of_lt hlt⟩
  anyId id hid := ((Extends.begin hn).trans hx).anyId id hid

end ApiModel.Progress

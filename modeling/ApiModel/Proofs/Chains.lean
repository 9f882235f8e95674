import ApiModel.Proofs.Spelling
import Mathlib.Logic.Relation

/-!
# Chains of references

`doc.Hops p q`: at the pointer `p` stands a reference, and it means `q`. Every pointer has at most one
next one, so what a slot stands for is the end of one chain: a slot is resolved exactly if its chain
`EndsAt` a node (`resolvePointer_of_endsAt`), and fails if it `Strays`. A chain that ends does not come
back to a pointer, which is why the pointers seen on the way change no answer.
-/

namespace ApiModel.Document

variable {doc : Document} {p q m e : String} {f : Fragment} {t : Target}

/-- The reference that stands at a pointer. -/
def referenceAt? (doc : Document) (pointer : String) : Option String :=
  (doc.get? pointer).bind (·.reference?)

/-- The reference at `p` is local and means `q`. -/
def Hops (doc : Document) (p q : String) : Prop :=
  ∃ reference pointer, doc.referenceAt? p = some reference ∧
    Reference.local? reference doc.selfUri = some pointer ∧ Pointer.canonical pointer = q

/-- `q` is `p` or comes after it, one reference after the other. -/
abbrev Chain (doc : Document) : String → String → Prop := Relation.ReflTransGen doc.Hops

/-- The chain from `p` comes to the node `f`, which holds no reference. -/
structure EndsAt (doc : Document) (p : String) (f : Fragment) : Prop where
  chain : doc.Chain p f.pointer
  holds : doc.Holds f
  last : f.value.reference? = none

/-- The chain from `p` comes to a reference that is not local, means a pointer at which nothing is, or
leads back to a pointer that the chain has come through. -/
def Strays (doc : Document) (p : String) : Prop :=
  ∃ q reference, doc.Chain p q ∧ doc.referenceAt? q = some reference ∧
    (Reference.local? reference doc.selfUri = none ∨
      ∃ pointer, Reference.local? reference doc.selfUri = some pointer ∧
        (doc.get? (Pointer.canonical pointer) = none ∨
          (doc.Chain p (Pointer.canonical pointer) ∧ doc.Chain (Pointer.canonical pointer) q)))

theorem Hops.unique (h : doc.Hops p q) (h' : doc.Hops p m) : q = m := by
  obtain ⟨r, l, hr, hl, rfl⟩ := h
  obtain ⟨r', l', hr', hl', rfl⟩ := h'
  cases hr.symm.trans hr'
  cases hl.symm.trans hl'
  rfl

theorem rightUnique_hops (doc : Document) : Relator.RightUnique doc.Hops :=
  fun _ _ _ h h' => h.unique h'

theorem not_hops_of_end (he : doc.referenceAt? e = none) : ¬ doc.Hops e q := by
  rintro ⟨r, l, hr, -⟩
  rw [he] at hr
  cases hr

/-- Whatever the chain comes through leads to its end. -/
theorem chain_to_end (he : doc.referenceAt? e = none) (h : doc.Chain p e) (hq : doc.Chain p q) :
    doc.Chain q e := by
  rcases Relation.ReflTransGen.total_of_right_unique doc.rightUnique_hops hq h with hqe | heq
  · exact hqe
  · rcases heq.cases_head with rfl | ⟨c, hc, -⟩
    · exact .refl
    · exact absurd hc (not_hops_of_end he)

/-- A chain that ends comes back to none of its pointers. -/
theorem not_cycle_of_end (he : doc.referenceAt? e = none) (h : doc.Chain p e) :
    ¬ Relation.TransGen doc.Hops p p := by
  induction h using Relation.ReflTransGen.head_induction_on with
  | refl =>
    intro hcycle
    obtain ⟨c, hc, -⟩ := Relation.TransGen.head'_iff.mp hcycle
    exact not_hops_of_end he hc
  | head hstep _ ih =>
    intro hcycle
    obtain ⟨c, hc, hback⟩ := Relation.TransGen.head'_iff.mp hcycle
    cases hstep.unique hc
    exact ih (Relation.TransGen.tail' hback hstep)

namespace EndsAt

theorem get? (h : doc.EndsAt p f) : doc.get? f.pointer = some f.value := by
  rw [Fragment.pointer, get?_ofPath]
  exact h.holds

theorem referenceAt? (h : doc.EndsAt p f) : doc.referenceAt? f.pointer = none := by
  rw [Document.referenceAt?, h.get?, Option.bind_some, h.last]

theorem unique {g : Fragment} (h : doc.EndsAt p f) (h' : doc.EndsAt p g) : f = g := by
  refine h.holds.eq h'.holds (Pointer.ofPath_injective ?_)
  rcases (chain_to_end h'.referenceAt? h'.chain h.chain).cases_head with heq | ⟨c, hc, -⟩
  · exact heq
  · exact absurd hc (not_hops_of_end h.referenceAt?)

theorem not_strays (h : doc.EndsAt p f) : ¬ doc.Strays p := by
  rintro ⟨q, reference, hq, hr, hor⟩
  -- The end lies behind `q`, and the first hop on the way to it is by the reference at `q`.
  rcases (chain_to_end h.referenceAt? h.chain hq).cases_head with rfl | ⟨c, hc, hrest⟩
  · rw [h.referenceAt?] at hr
    cases hr
  obtain ⟨r, l, hr', hl, rfl⟩ := id hc
  cases hr.symm.trans hr'
  rcases hor with hnone | ⟨l', hl', hstuck⟩
  · rw [hl] at hnone
    cases hnone
  cases hl.symm.trans hl'
  rcases hstuck with hnone | ⟨-, hback⟩
  · rcases hrest.cases_head with heq | ⟨d, hd, -⟩
    · rw [heq, h.get?] at hnone
      cases hnone
    · exact not_hops_of_end (by rw [Document.referenceAt?, hnone]; rfl) hd
  · exact not_cycle_of_end h.referenceAt? hrest (Relation.TransGen.tail' hback hc)

end EndsAt

theorem endsAt_of_follow {seen : List Path} {reference : String}
    (hr : doc.referenceAt? p = some reference) (h : doc.follow seen reference = .ok f) :
    doc.EndsAt p f := by
  fun_induction follow doc seen reference generalizing p with
  | case1 | case2 => cases h
  | case3 seen reference l hl v hv hn =>
    cases h
    exact ⟨.single ⟨reference, l, hr, hl, rfl⟩, hv, hn⟩
  | case4 => cases h
  | case5 seen reference l hl v hv next hn hs ih =>
    have hnext : doc.referenceAt? (Pointer.canonical l) = some next := by
      rw [referenceAt?, Pointer.canonical, get?_ofPath, hv, Option.bind_some, hn]
    obtain ⟨hchain, hholds, hlast⟩ := ih hnext h
    exact ⟨.head ⟨reference, l, hr, hl, rfl⟩ hchain, hholds, hlast⟩

/-- The search fails where the chain strays: what it has seen the chain has come through. -/
theorem strays_of_follow {start : String} {seen : List Path} {reference : String} {r : Rejection}
    (hr : doc.referenceAt? p = some reference) (hstart : doc.Chain start p)
    (hseen : ∀ path ∈ seen, doc.Chain start (Pointer.ofPath path) ∧ doc.Chain (Pointer.ofPath path) p)
    (h : doc.follow seen reference = .error r) : doc.Strays start := by
  fun_induction follow doc seen reference generalizing p with
  | case1 seen reference hl => exact ⟨p, reference, hstart, hr, .inl hl⟩
  | case2 seen reference l hl hv =>
    refine ⟨p, reference, hstart, hr, .inr ⟨l, hl, .inl ?_⟩⟩
    rw [Pointer.canonical, get?_ofPath, hv]
  | case3 => cases h
  | case4 seen reference l hl v hv next hn hs =>
    exact ⟨p, reference, hstart, hr, .inr ⟨l, hl, .inr (hseen _ hs)⟩⟩
  | case5 seen reference l hl v hv next hn hs ih =>
    have hhop : doc.Hops p (Pointer.canonical l) := ⟨reference, l, hr, hl, rfl⟩
    have hnext : doc.referenceAt? (Pointer.canonical l) = some next := by
      rw [referenceAt?, Pointer.canonical, get?_ofPath, hv, Option.bind_some, hn]
    refine ih hnext (hstart.tail hhop) (fun path hm => ?_) h
    rcases List.mem_cons.mp hm with rfl | hm
    · exact ⟨hstart.tail hhop, .refl⟩
    · exact ⟨(hseen path hm).1, (hseen path hm).2.tail hhop⟩

/-! ### What a pointer stands for -/

/-- The ways in which a pointer is resolved. Without a reference it has to be the written form of a path;
with one it is a pointer seen before only if it is such a form. -/
inductive Resolution (doc : Document) (p : String) : Except Rejection (Option Target) → Prop
  | nothing (hv : doc.get? p = none) : Resolution doc p (.ok none)
  | node {path : Path} {v : Json} (hp : Pointer.ofPath path = p) (hv : doc.at? path = some v)
      (hn : v.reference? = none) : Resolution doc p (.ok (some ⟨⟨path, v⟩, none⟩))
  | unwritten {v : Json} (hv : doc.get? p = some v) (hn : v.reference? = none)
      (hp : ∀ path, Pointer.ofPath path ≠ p) : Resolution doc p (.error (.unresolvedReference p))
  | found {seen : List Path} {reference : String} {f : Fragment}
      (hr : doc.referenceAt? p = some reference) (hf : doc.follow seen reference = .ok f) :
      Resolution doc p (.ok (some ⟨f, Pointer.declaredName? f.pointer⟩))
  | lost {seen : List Path} {reference : String} {r : Rejection}
      (hr : doc.referenceAt? p = some reference) (hs : ∀ path ∈ seen, Pointer.ofPath path = p)
      (hf : doc.follow seen reference = .error r) : Resolution doc p (.error r)

theorem resolution (doc : Document) (p : String) : doc.Resolution p (doc.resolvePointer p) := by
  cases hv : doc.get? p with
  | none =>
    have hres : doc.resolvePointer p = .ok none := by
      unfold resolvePointer resolve
      cases hpath : Pointer.literal? p with
      | none => rfl
      | some path =>
        have hat : doc.at? path = none := by rwa [get?, hpath, Option.bind_some] at hv
        simp [hat]
    exact hres ▸ .nothing hv
  | some v =>
    cases hn : v.reference? with
    | none =>
      obtain ⟨path, hpath, hat⟩ := Option.bind_eq_some_iff.mp hv
      unfold resolvePointer resolve target
      simp only [hpath, hat, hn]
      split
      · rename_i hp
        exact .node hp hat hn
      · rename_i hp
        refine .unwritten hv hn fun path' hp' => hp ?_
        rw [← hp', Pointer.literal?_ofPath] at hpath
        rw [← Option.some.inj hpath, hp']
    | some reference =>
      obtain ⟨seen, hs, hseen⟩ := exists_resolvePointer_eq hv hn
      have hr : doc.referenceAt? p = some reference := by rw [referenceAt?, hv, Option.bind_some, hn]
      rw [hseen]
      cases hf : doc.follow seen reference with
      | ok f =>
        rw [Except.map, ← Pointer.declaredName?_ofPath]
        exact .found hr hf
      | error r => exact .lost hr hs hf

theorem resolvePointer_eq_none_iff : doc.resolvePointer p = .ok none ↔ doc.get? p = none := by
  have h := doc.resolution p
  constructor
  · intro he
    rw [he] at h
    cases h
    assumption
  · intro hv
    generalize doc.resolvePointer p = result at h
    cases h with
    | nothing => rfl
    | node hp hat => rw [← hp, get?_ofPath, hat] at hv; cases hv
    | unwritten hv' => rw [hv] at hv'; cases hv'
    | found hr | lost hr => rw [referenceAt?, hv] at hr; cases hr

theorem endsAt_of_resolvePointer (he : doc.resolvePointer p = .ok (some t)) :
    doc.EndsAt p t.toFragment ∧
      t.name = (doc.referenceAt? p).bind fun _ => Pointer.declaredName? t.pointer := by
  have h := doc.resolution p
  rw [he] at h
  cases h with
  | node hp hv hn =>
    subst hp
    refine ⟨⟨.refl, hv, hn⟩, ?_⟩
    rw [referenceAt?, get?_ofPath, hv, Option.bind_some, hn]
    rfl
  | found hr hf => exact ⟨endsAt_of_follow hr hf, by rw [hr]; rfl⟩

/-- A pointer fails if its chain strays, or if it is not written as the pointer of the node that is
there. -/
theorem strays_of_resolvePointer {r : Rejection} (he : doc.resolvePointer p = .error r) :
    doc.Strays p ∨ doc.referenceAt? p = none ∧ ∀ path, Pointer.ofPath path ≠ p := by
  have h := doc.resolution p
  rw [he] at h
  cases h with
  | unwritten hv hn hp => exact .inr ⟨by rw [referenceAt?, hv, Option.bind_some, hn], hp⟩
  | lost hr hs hf =>
    refine .inl (strays_of_follow hr .refl (fun path hm => ?_) hf)
    rw [hs path hm]
    exact ⟨.refl, .refl⟩

theorem resolvePointer_of_endsAt (h : doc.EndsAt p f) :
    ∃ t, doc.resolvePointer p = .ok (some t) ∧ t.toFragment = f := by
  match he : doc.resolvePointer p with
  | .ok none =>
    have hv := resolvePointer_eq_none_iff.mp he
    rcases h.chain.cases_head with rfl | ⟨c, hc, -⟩
    · rw [h.get?] at hv
      cases hv
    · exact absurd hc (not_hops_of_end (by rw [referenceAt?, hv]; rfl))
  | .ok (some t) => exact ⟨t, rfl, (endsAt_of_resolvePointer he).1.unique h⟩
  | .error r =>
    rcases strays_of_resolvePointer he with hstrays | ⟨hend, hp⟩
    · exact absurd hstrays h.not_strays
    · rcases h.chain.cases_head with rfl | ⟨c, hc, -⟩
      · exact absurd rfl (hp f.path)
      · exact absurd hc (not_hops_of_end hend)

/-- The pointer of a node fails exactly if its chain strays. -/
theorem exists_error_iff_strays (hf : doc.Holds f) :
    (∃ r, doc.resolvePointer f.pointer = .error r) ↔ doc.Strays f.pointer := by
  constructor
  · rintro ⟨r, hr⟩
    exact (strays_of_resolvePointer hr).resolve_right fun hno => hno.2 f.path rfl
  · intro hs
    match he : doc.resolvePointer f.pointer with
    | .ok none =>
      rw [Fragment.pointer, resolvePointer_ofPath] at he
      have hv := resolve_eq_none_iff.mp he
      rw [hf] at hv
      cases hv
    | .ok (some t) => exact absurd hs (endsAt_of_resolvePointer he).1.not_strays
    | .error r => exact ⟨r, rfl⟩

/-- Slots whose chains meet stand for the same node. -/
theorem resolvePointer_of_meet {other meeting : String} (hp : doc.Chain p meeting)
    (ho : doc.Chain other meeting) (ht : doc.resolvePointer p = .ok (some t)) :
    ∃ t', doc.resolvePointer other = .ok (some t') ∧ t'.toFragment = t.toFragment := by
  obtain ⟨hend, -⟩ := endsAt_of_resolvePointer ht
  have hmeet := chain_to_end hend.referenceAt? hend.chain hp
  exact resolvePointer_of_endsAt ⟨ho.trans hmeet, hend.holds, hend.last⟩

/-- What a pointer stands for is the node at the end of its chain: nothing is declared, or the chain ends
and its last pointer is that of a node with an id, or for the pointer of a node the chain strays. Slots
whose chains meet stand for the same node. -/
theorem resolvePointer_follows_chain (doc : Document) (h : doc.root.KeysDistinct) (pointer : String) :
    (doc.resolvePointer pointer = .ok none ↔ doc.get? pointer = none) ∧
      (∀ t, doc.resolvePointer pointer = .ok (some t) →
        (∃ i, doc.arena.id? t.pointer = some i ∧ doc.arena.pointers[i]? = some t.pointer ∧
          doc.arena.names[i]? = some (Pointer.declaredName? t.pointer) ∧
          doc.root.nodes[i]? = some t.value) ∧
        doc.Chain pointer t.pointer ∧ t.value.reference? = none ∧
        (t.name = none ↔
          doc.referenceAt? pointer = none ∨ Pointer.declaredName? t.pointer = none)) ∧
      (pointer ∈ doc.arena.pointers →
        ((∃ r, doc.resolvePointer pointer = .error r) ↔ doc.Strays pointer)) ∧
      ∀ other meeting t, doc.Chain pointer meeting → doc.Chain other meeting →
        doc.resolvePointer pointer = .ok (some t) →
        ∃ t', doc.resolvePointer other = .ok (some t') ∧
          doc.arena.id? t'.pointer = doc.arena.id? t.pointer ∧ t'.toFragment = t.toFragment := by
  refine ⟨resolvePointer_eq_none_iff, fun t ht => ?_, fun hp => ?_, fun other meeting t hm ho ht => ?_⟩
  · obtain ⟨hend, hname⟩ := endsAt_of_resolvePointer ht
    refine ⟨exists_id_of_holds h hend.holds, hend.chain, hend.last, ?_⟩
    rw [hname]
    cases doc.referenceAt? pointer <;> simp
  · obtain ⟨f, hf, rfl⟩ := (mem_pointers_iff h).mp hp
    exact exists_error_iff_strays hf
  · obtain ⟨t', ht', heq⟩ := resolvePointer_of_meet hm ho ht
    exact ⟨t', ht', by rw [heq], heq⟩

/-- Two aliases of a node, a loop, and references to another document and to nothing. -/
def withAliases : Document where
  root := .obj [("d", .obj [
    ("A", .obj [("$ref", .str "#/d/B")]),
    ("B", .obj [("$ref", .str "#/d/C%20c")]),
    ("C c", .obj [("type", .str "string")]),
    ("Loop", .obj [("$ref", .str "#/d/Back")]),
    ("Back", .obj [("$ref", .str "#/d/Loop")]),
    ("Far", .obj [("$ref", .str "other.yaml#/d/A")]),
    ("Gone", .obj [("$ref", .str "#/d/D")])])]

theorem resolvePointer_follows_chain_withAliases :
    withAliases.root.KeysDistinct ∧
      (∀ slot ∈ ["#/d/Loop", "#/d/Far", "#/d/Gone"], slot ∈ withAliases.arena.pointers ∧
        withAliases.Strays slot) ∧
      withAliases.Chain "#/d/A" "#/d/B" ∧
      ∃ t, withAliases.resolvePointer "#/d/B" = .ok (some t) ∧
        withAliases.arena.id? t.pointer = some 6 := by
  have h : withAliases.root.KeysDistinct := by decide +kernel
  have hfails : ∀ slot ∈ ["#/d/Loop", "#/d/Far", "#/d/Gone"],
      slot ∈ withAliases.arena.pointers ∧ (withAliases.resolvePointer slot).toOption.isNone := by
    decide +kernel
  have hends : (withAliases.resolvePointer "#/d/A").toOption.join.any
      fun t => withAliases.arena.id? t.pointer = some 6 := by
    decide +kernel
  have hchain : withAliases.Chain "#/d/A" "#/d/B" :=
    .single ⟨"#/d/B", "#/d/B", by decide +kernel, by decide +kernel, by decide +kernel⟩
  refine ⟨h, fun slot hm => ?_, hchain, ?_⟩
  · obtain ⟨hp, hnone⟩ := hfails slot hm
    refine ⟨hp, ((resolvePointer_follows_chain withAliases h slot).2.2.1 hp).mp ?_⟩
    cases he : withAliases.resolvePointer slot with
    | error r => exact ⟨r, rfl⟩
    | ok t => rw [he] at hnone; cases hnone
  · match he : withAliases.resolvePointer "#/d/A" with
    | .error _ | .ok none => rw [he] at hends; cases hends
    | .ok (some t) =>
      obtain ⟨t', ht', hid, -⟩ :=
        (resolvePointer_follows_chain withAliases h "#/d/A").2.2.2 "#/d/B" "#/d/B" t hchain .refl he
      rw [he] at hends
      exact ⟨t', ht', hid.trans (of_decide_eq_true hends)⟩

end ApiModel.Document

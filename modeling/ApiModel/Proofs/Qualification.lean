import ApiModel.Proofs.Chains
import ApiModel.Proofs.Lists

/-!
# References that name their own document

A document that declares a URI for itself may write a reference to one of its own places with the URI or
without. `Qualified` says of two values that they differ in this only, at any depth. What a reference means
in the document is the same in both spellings (`local?_of_spells`), so chains go through the same pointers
and every pointer comes to the same end (`resolvePointer_respelled`).
-/

namespace ApiModel

section

variable {α β γ δ : Type} {R : α → β → Prop} {S : γ → δ → Prop} {x : Except Rejection α}
  {y : Except Rejection β} {a? : Option α} {b? : Option β} {a : α}

theorem eq_none_of_rel (h : Option.Rel R none b?) : b? = none := by
  cases h
  rfl

theorem exists_of_rel (h : Option.Rel R (some a) b?) : ∃ b, b? = some b ∧ R a b := by
  cases h with
  | some hab => exact ⟨_, rfl, hab⟩

theorem isNone_eq_of_rel (h : Option.Rel R a? b?) : a?.isNone = b?.isNone := by
  cases h <;> rfl

/-- Both fail, or neither does and the results are related. -/
inductive EndAlike (R : α → β → Prop) : Except Rejection α → Except Rejection β → Prop
  | error (r r' : Rejection) : EndAlike R (.error r) (.error r')
  | ok {a : α} {b : β} (h : R a b) : EndAlike R (.ok a) (.ok b)

namespace EndAlike

theorem map {f : α → γ} {g : β → δ} (h : EndAlike R x y) (hfg : ∀ a b, R a b → S (f a) (g b)) :
    EndAlike S (x.map f) (y.map g) := by
  cases h with
  | error r r' => exact .error r r'
  | ok h => exact .ok (hfg _ _ h)

theorem exists_ok (h : EndAlike R (.ok a) y) : ∃ b, y = .ok b ∧ R a b := by
  cases h with
  | ok hab => exact ⟨_, rfl, hab⟩

theorem exists_error {r : Rejection} (h : EndAlike R (.error r) y) : ∃ r', y = .error r' := by
  cases h
  exact ⟨_, rfl⟩

end EndAlike

end

/-! ### Two spellings of a reference -/

namespace Reference

variable {u r r' : String}

/-- `r'` is the reference `r`, or `r` leads into the document and has the URI before it. -/
def Spells (u r r' : String) : Prop := r' = r ∨ r.toList.head? = some '#' ∧ r' = u ++ r

/-- In a document with this URI both spellings mean the same. -/
theorem local?_of_spells (hu : '#' ∉ u.toList) (h : Spells u r r') :
    local? r' (some u) = local? r (some u) := by
  rcases h with rfl | ⟨hr, rfl⟩
  · rfl
  obtain ⟨cs, hcs⟩ := List.head?_eq_some_iff.mp hr
  have hqualified : Split.once? '#' (u ++ r).toList = some (u.toList, cs) :=
    Split.once?_eq_some_iff.mpr ⟨by rw [String.toList_append, hcs], hu⟩
  have hshort : Split.once? '#' r.toList = some ([], cs) :=
    Split.once?_eq_some_iff.mpr ⟨hcs, List.not_mem_nil⟩
  have hself : namesDocument (String.ofList u.toList) u = true := by
    rw [String.ofList_toList, namesDocument, decide_eq_true rfl, Bool.true_or]
  unfold local?
  rw [hqualified, hshort]
  dsimp only
  rw [if_pos hself, ite_self]
  rfl

end Reference

namespace Json

open Reference (Spells)

/-- At a key, `w` is `v` but for references into the document, some of which have the URI before them. -/
inductive Qualified (u : String) : String → Json → Json → Prop
  | same (key : String) (v : Json) : Qualified u key v v
  | reference {s : String} (h : s.toList.head? = some '#') :
      Qualified u "$ref" (.str s) (.str (u ++ s))
  | arr (key : String) {items items' : List Json} (hlength : items.length = items'.length)
      (h : ∀ p ∈ items.zip items', Qualified u "" p.1 p.2) :
      Qualified u key (.arr items) (.arr items')
  | obj (key : String) {fields fields' : List (String × Json)}
      (hkeys : fields.map (·.1) = fields'.map (·.1))
      (h : ∀ p ∈ fields.zip fields', Qualified u p.1.1 p.1.2 p.2.2) :
      Qualified u key (.obj fields) (.obj fields')

namespace Qualified

variable {u key k : String} {v w : Json}

/-- Only at the key of references there are spellings to choose from. -/
theorem at_key (h : Qualified u key v w) (hk : key ≠ "$ref") (key' : String) :
    Qualified u key' v w := by
  cases h with
  | same => exact .same key' v
  | reference => exact absurd rfl hk
  | arr _ hlength h => exact .arr key' hlength h
  | obj _ hkeys h => exact .obj key' hkeys h

theorem children (h : Qualified u key v w) :
    List.Forall₂ (fun a b => a.1 = b.1 ∧ Qualified u a.1 a.2 b.2) v.children w.children := by
  cases h with
  | same => exact List.forall₂_same.mpr fun c _ => ⟨rfl, .same ..⟩
  | reference => exact .nil
  | arr _ hlength h =>
    have hitems := List.forall₂_iff_zip.mpr ⟨hlength, fun {a b} hm => h (a, b) hm⟩
    rw [Json.children, Json.children, List.forall₂_map_left_iff, List.forall₂_map_right_iff]
    refine (forall₂_zipIdx hitems 0).imp fun a b hab => ?_
    exact ⟨congrArg Nat.repr hab.1, hab.2.at_key (by decide) _⟩
  | obj _ hkeys h => exact forall₂_of_keys hkeys h

theorem child? (h : Qualified u key v w) (k : String) :
    Option.Rel (Qualified u k) (v.child? k) (w.child? k) :=
  have ⟨hlength, hzip⟩ := List.forall₂_iff_zip.mp h.children
  Assoc.rel_get? hlength (fun _ hp => hzip hp) k

/-- A path leads in both to nothing, or to values that differ in the spelling of references. -/
theorem at? (h : Qualified u key v w) (path : Path) :
    Option.Rel (fun a b => ∃ k, Qualified u k a b) (v.at? path) (w.at? path) := by
  induction path generalizing key v w with
  | nil => exact .some ⟨key, h⟩
  | cons k path ih =>
    rw [at?_cons, at?_cons]
    have hchild := h.child? k
    generalize v.child? k = a? at hchild
    generalize w.child? k = b? at hchild
    cases hchild with
    | none => exact .none
    | some hab => exact ih hab

theorem get? (h : Qualified u key v w) (k : String) :
    Option.Rel (Qualified u k) (v.get? k) (w.get? k) := by
  cases h with
  | same =>
    cases v.get? k with
    | none => exact .none
    | some a => exact .some (.same k a)
  | reference => exact .none
  | arr => exact .none
  | obj _ hkeys h => exact child? (.obj key hkeys h) k

theorem reference? (h : Qualified u key v w) : Option.Rel (Spells u) v.reference? w.reference? := by
  unfold Json.reference?
  have hget := h.get? "$ref"
  generalize v.get? "$ref" = a? at hget
  generalize w.get? "$ref" = b? at hget
  cases hget with
  | none => exact .none
  | @some a b hab =>
    cases hab with
    | same =>
      rw [Option.bind_some]
      cases a.str? with
      | none => exact .none
      | some s => exact .some (.inl rfl)
    | reference hs => exact .some (.inr ⟨hs, rfl⟩)
    | arr => exact .none
    | obj => exact .none

/-- What stands at another key than that of references is the same text in both, if it is a text. -/
theorem text? (h : Qualified u key v w) (hk : k ≠ "$ref") : w.text? k = v.text? k := by
  unfold Json.text?
  have hget := h.get? k
  generalize v.get? k = a? at hget
  generalize w.get? k = b? at hget
  cases hget with
  | none => rfl
  | some hab =>
    cases hab with
    | same => rfl
    | reference => exact absurd rfl hk
    | arr => rfl
    | obj => rfl

/-- The nodes of both stand at the same paths, in the same order. -/
theorem map_path_fragmentsAt (h : Qualified u key v w) (path : Path) :
    (v.fragmentsAt path).map (·.path) = (w.fragmentsAt path).map (·.path) := by
  induction w using children_induction generalizing key v path with
  | step w ih =>
    have hparts : List.Forall₂ (· = ·)
        (v.children.map fun c => (c.2.fragmentsAt (path ++ [c.1])).map (·.path))
        (w.children.map fun c => (c.2.fragmentsAt (path ++ [c.1])).map (·.path)) := by
      rw [List.forall₂_map_left_iff, List.forall₂_map_right_iff]
      refine forall₂_imp_of_mem h.children fun a b hb hab => ?_
      rw [hab.1]
      exact ih b hb hab.2 _
    rw [List.forall₂_eq_eq_eq] at hparts
    rw [fragmentsAt_eq, fragmentsAt_eq, List.map_cons, List.map_cons, List.map_flatMap,
      List.map_flatMap, List.flatMap_def, List.flatMap_def, hparts]

end Qualified

end Json

namespace Document

open Reference (Spells)

/-- A document that declares the URI `u` for itself, and one that has `u` before some of its references
into the document. -/
structure Respelled (u : String) (d d' : Document) : Prop where
  plain : '#' ∉ u.toList
  self : d.selfUri = some u
  root : Json.Qualified u "" d.root d'.root

/-- Targets at one path and with one name. -/
structure SamePlace (t t' : Target) : Prop where
  path : t.path = t'.path
  name : t.name = t'.name

/-- Targets in two documents that have the same pointer, id and name. -/
structure SameTarget (d d' : Document) (t t' : Target) : Prop where
  pointer : t.pointer = t'.pointer
  id : ∃ i, d.arena.id? t.pointer = some i ∧ d'.arena.id? t'.pointer = some i
  name : t.name = t'.name

/-- Every node has an id. -/
theorem isSome_id?_of_holds {doc : Document} {f : Fragment} (hf : doc.Holds f) :
    (doc.arena.id? f.pointer).isSome := by
  rw [Option.isSome_iff_ne_none, Arena.id?, index_arena]
  intro hnone
  refine Assoc.get?_eq_none_iff.mp hnone ?_
  rw [List.map_reverse, List.zipIdx_map_fst, List.mem_reverse]
  exact List.mem_map_of_mem (Json.mem_fragmentsAt hf)

namespace Respelled

variable {u r r' : String} {d d' : Document}

theorem selfUri_eq (h : d.Respelled u d') : d'.selfUri = some u := by
  rw [← h.self]
  exact h.root.text? (by decide)

theorem arena_eq (h : d.Respelled u d') : d.arena = d'.arena := by
  rw [Document.arena_eq, Document.arena_eq, map_pointer_fragments, map_pointer_fragments, fragments,
    fragments, h.root.map_path_fragmentsAt]

theorem local?_eq (h : d.Respelled u d') (hr : Spells u r r') :
    Reference.local? r' d'.selfUri = Reference.local? r d.selfUri := by
  rw [h.selfUri_eq, h.self]
  exact Reference.local?_of_spells h.plain hr

theorem at?_eq_none (h : d.Respelled u d') {path : Path} (hv : d.at? path = none) :
    d'.at? path = none := by
  have hroot : d.root.at? path = none := hv
  exact eq_none_of_rel (hroot ▸ h.root.at? path)

theorem exists_at? (h : d.Respelled u d') {path : Path} {v : Json} (hv : d.at? path = some v) :
    ∃ w, d'.at? path = some w ∧ Option.Rel (Spells u) v.reference? w.reference? := by
  have hroot : d.root.at? path = some v := hv
  obtain ⟨w, hw, k, hvw⟩ := exists_of_rel (hroot ▸ h.root.at? path)
  exact ⟨w, hw, hvw.reference?⟩

/-- Both spellings of a reference are followed to the same path, or both in vain. -/
theorem follow (h : d.Respelled u d') (hr : Spells u r r') (seen : List Path) :
    EndAlike (fun f f' => f.path = f'.path) (d.follow seen r) (d'.follow seen r') := by
  -- Both chains come through the same paths, so what was seen is the same list in both.
  fun_induction Document.follow d seen r generalizing r' with
  | case1 seen r hl =>
    rw [follow_of_foreign ((h.local?_eq hr).trans hl)]
    exact .error ..
  | case2 seen r l hl hv =>
    rw [follow_of_none ((h.local?_eq hr).trans hl) (h.at?_eq_none hv)]
    exact .error ..
  | case3 seen r l hl v hv hn =>
    obtain ⟨w, hw, hnext⟩ := h.exists_at? hv
    rw [hn] at hnext
    rw [follow_of_some ((h.local?_eq hr).trans hl) hw, eq_none_of_rel hnext]
    exact .ok rfl
  | case4 seen r l hl v hv next hn hs =>
    obtain ⟨w, hw, hnext⟩ := h.exists_at? hv
    rw [hn] at hnext
    obtain ⟨next', hn', -⟩ := exists_of_rel hnext
    rw [follow_of_some ((h.local?_eq hr).trans hl) hw, hn']
    dsimp only
    rw [if_pos hs]
    exact .error ..
  | case5 seen r l hl v hv next hn hs ih =>
    obtain ⟨w, hw, hnext⟩ := h.exists_at? hv
    rw [hn] at hnext
    obtain ⟨next', hn', hspells⟩ := exists_of_rel hnext
    rw [follow_of_some ((h.local?_eq hr).trans hl) hw, hn']
    dsimp only
    rw [if_neg hs]
    exact ih hspells

/-- What a value stands for is at the same path in both, and has the same name. -/
theorem target (h : d.Respelled u d') {v w : Json}
    (hvw : Option.Rel (Spells u) v.reference? w.reference?) (seen : List Path) (path : Path) :
    EndAlike SamePlace (d.target seen path v) (d'.target seen path w) := by
  unfold Document.target
  generalize v.reference? = r? at hvw
  generalize w.reference? = r'? at hvw
  cases hvw with
  | none => exact .ok ⟨rfl, rfl⟩
  | some hr => exact (h.follow hr seen).map fun f f' hf => ⟨hf, congrArg Pointer.nameOfPath hf⟩

theorem resolve (h : d.Respelled u d') (path : Path) :
    EndAlike (Option.Rel SamePlace) (d.resolve path) (d'.resolve path) := by
  unfold Document.resolve
  cases hv : d.at? path with
  | none => rw [h.at?_eq_none hv]; exact .ok .none
  | some v =>
    obtain ⟨w, hw, hvw⟩ := h.exists_at? hv
    rw [hw]
    exact (h.target hvw [path] path).map fun _ _ hs => .some hs

theorem resolvePointer (h : d.Respelled u d') (pointer : String) :
    EndAlike (Option.Rel SamePlace) (d.resolvePointer pointer) (d'.resolvePointer pointer) := by
  unfold Document.resolvePointer
  cases Pointer.literal? pointer with
  | none => exact .ok .none
  | some path =>
    dsimp only
    split
    · exact h.resolve path
    cases hv : d.at? path with
    | none => rw [h.at?_eq_none hv]; exact .ok .none
    | some v =>
      obtain ⟨w, hw, hvw⟩ := h.exists_at? hv
      rw [hw]
      dsimp only
      rw [isNone_eq_of_rel hvw]
      split
      · exact .error ..
      · exact (h.target hvw [] path).map fun _ _ hs => .some hs

end Respelled

/-- The spelling of the references into the document changes no outcome: of every pointer nothing is
found in both, or both fail, or it stands for the same node by the same name. -/
theorem resolvePointer_respelled {u : String} {d d' : Document} (h : d.Respelled u d')
    (pointer : String) :
    EndAlike (Option.Rel (SameTarget d d')) (d.resolvePointer pointer) (d'.resolvePointer pointer) := by
  have hends := h.resolvePointer pointer
  generalize hx : d.resolvePointer pointer = x at hends
  generalize d'.resolvePointer pointer = y at hends
  cases hends with
  | error => exact .error ..
  | ok hrel =>
    cases hrel with
    | none => exact .ok .none
    | @some t t' hsame =>
      obtain ⟨i, hi⟩ := Option.isSome_iff_exists.mp
        (isSome_id?_of_holds (endsAt_of_resolvePointer hx).1.holds)
      have hpointer : t.pointer = t'.pointer := congrArg Pointer.ofPath hsame.path
      exact .ok (.some ⟨hpointer, ⟨i, hi, by rw [← h.arena_eq, ← hpointer, hi]⟩, hsame.name⟩)

/-- References through others, in a circle and to nothing, in a document with a URI. -/
def withSelf : Document where
  root := .obj [("$self", .str "trees.yaml"), ("d", .obj [
    ("A", .obj [("$ref", .str "#/d/B")]),
    ("B", .obj [("$ref", .str "#/d/C%20c")]),
    ("C c", .obj [("type", .str "string")]),
    ("Loop", .obj [("$ref", .str "#/d/Back")]),
    ("Back", .obj [("$ref", .str "#/d/Loop")]),
    ("Gone", .obj [("$ref", .str "#/d/D")])])]

/-- The same with some references qualified. -/
def withSelfQualified : Document where
  root := .obj [("$self", .str "trees.yaml"), ("d", .obj [
    ("A", .obj [("$ref", .str ("trees.yaml" ++ "#/d/B"))]),
    ("B", .obj [("$ref", .str "#/d/C%20c")]),
    ("C c", .obj [("type", .str "string")]),
    ("Loop", .obj [("$ref", .str "#/d/Back")]),
    ("Back", .obj [("$ref", .str ("trees.yaml" ++ "#/d/Loop"))]),
    ("Gone", .obj [("$ref", .str ("trees.yaml" ++ "#/d/D"))])])]

theorem resolvePointer_respelled_withSelf :
    withSelf.Respelled "trees.yaml" withSelfQualified ∧
      (∃ t', withSelfQualified.resolvePointer "#/d/A" = .ok (some t') ∧ t'.pointer = "#/d/C c" ∧
        t'.name = some "C c" ∧ withSelfQualified.arena.id? t'.pointer = some 7) ∧
      (∃ r, withSelfQualified.resolvePointer "#/d/Loop" = .error r) ∧
      ∃ r, withSelfQualified.resolvePointer "#/d/Gone" = .error r := by
  have hqualified : ∀ key s : String, s.toList.head? = some '#' →
      Json.Qualified "trees.yaml" key (.obj [("$ref", .str s)])
        (.obj [("$ref", .str ("trees.yaml" ++ s))]) := fun key s hs =>
    .obj key rfl (List.forall_mem_singleton.mpr (.reference hs))
  have h : withSelf.Respelled "trees.yaml" withSelfQualified := by
    refine ⟨by decide +kernel, by decide +kernel, .obj "" rfl ?_⟩
    refine List.forall_mem_cons.mpr ⟨.same .., List.forall_mem_singleton.mpr (.obj "d" rfl ?_)⟩
    simp only [List.zip_cons_cons, List.zip_nil_left, List.forall_mem_cons]
    exact ⟨hqualified _ _ (by decide +kernel), .same .., .same .., .same ..,
      hqualified _ _ (by decide +kernel), hqualified _ _ (by decide +kernel), by simp⟩
  have hfound : (withSelf.resolvePointer "#/d/A").toOption.join.any fun t =>
      t.pointer = "#/d/C c" ∧ t.name = some "C c" ∧ withSelf.arena.id? t.pointer = some 7 := by
    decide +kernel
  have hlost : ∀ slot ∈ ["#/d/Loop", "#/d/Gone"],
      (withSelf.resolvePointer slot).toOption.isNone := by
    decide +kernel
  have hfails : ∀ slot ∈ ["#/d/Loop", "#/d/Gone"],
      ∃ r, withSelfQualified.resolvePointer slot = .error r := by
    intro slot hm
    have hnone := hlost slot hm
    have hends := resolvePointer_respelled h slot
    cases he : withSelf.resolvePointer slot with
    | ok t => rw [he] at hnone; cases hnone
    | error r => rw [he] at hends; exact hends.exists_error
  refine ⟨h, ?_, hfails _ (by decide), hfails _ (by decide)⟩
  have hends := resolvePointer_respelled h "#/d/A"
  match he : withSelf.resolvePointer "#/d/A" with
  | .error _ | .ok none => rw [he] at hfound; cases hfound
  | .ok (some t) =>
    rw [he] at hends hfound
    obtain ⟨_, hy, hrel⟩ := hends.exists_ok
    obtain ⟨t', rfl, hsame⟩ := exists_of_rel hrel
    obtain ⟨hp, hn, hi⟩ := of_decide_eq_true hfound
    obtain ⟨i, hti, hti'⟩ := hsame.id
    refine ⟨t', hy, hsame.pointer ▸ hp, hsame.name ▸ hn, ?_⟩
    rw [hti', ← hti, hi]

end Document

end ApiModel

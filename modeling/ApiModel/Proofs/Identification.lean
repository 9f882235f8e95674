import ApiModel.Identity

/-!
# How operations are identified

`Divides c id i`: the identity `i` is the id divided at its first separator `c`. Every id is divided in
one way (`divides_iff`). An operation is identified by the id that it declares, else by its tags, of which
something is said, else by the name that stands for all such operations, which is an error
(`Identifies`).

That name is divided like an id, so a separator that occurs in it leaves a part of it as the group.
-/

namespace ApiModel

namespace Identity

variable {c : Char} {id : String} {i : Identity} {v : Json} {source : String}

/-- Group and member put together with a separator are the id, and no separator is in the group; or the
id has no separator, and is the member of the group without a name. -/
inductive Divides (c : Char) (id : String) : Identity → Prop
  | atFirst {group member : String} (free : c ∉ group.toList)
      (joined : group ++ String.ofList [c] ++ member = id) : Divides c id ⟨group, member⟩
  | whole (free : c ∉ id.toList) : Divides c id ⟨"", id⟩

theorem divides_split (c : Char) (id : String) : Divides c id (split id c) := by
  unfold split
  cases hs : Split.once? c id.toList with
  | none => exact .whole (Split.once?_eq_none_iff.mp hs)
  | some parts =>
    obtain ⟨before, after⟩ := parts
    obtain ⟨hjoined, hfree⟩ := Split.eq_of_once? hs
    refine .atFirst (by simpa using hfree) (String.toList_inj.mp ?_)
    simp [hjoined]

/-- An id is divided in one way. -/
theorem divides_iff : Divides c id i ↔ split id c = i := by
  constructor
  · rintro (⟨hfree, hjoined⟩ | hfree)
    · rename_i group member
      have hlist : id.toList = group.toList ++ c :: member.toList := by rw [← hjoined]; simp
      rw [split, Split.once?_eq_some_iff.mpr ⟨hlist, hfree⟩]
      simp
    · rw [split, Split.once?_eq_none_iff.mpr hfree]
  · rintro rfl
    exact divides_split c id

/-- Only an id without the separator has all of itself as its member. -/
theorem Divides.eq_whole (h : Divides c id i) (hfree : c ∉ id.toList) : i = ⟨"", id⟩ := by
  rw [← divides_iff.mp h, divides_iff.mp (.whole hfree)]

/-! ### What an operation is identified by -/

/-- The operation declares an id that is not empty. -/
def Declares (v : Json) (id : String) : Prop := v.get? "operationId" = some (.str id) ∧ id ≠ ""

theorem declared?_eq_some_iff : declared? v = some id ↔ Declares v id := by
  have hstr : ∀ w : Json, w.str? = some id ↔ w = .str id := by
    intro w
    cases w <;> simp [Json.str?]
  simp [declared?, Json.text?, Declares, Option.filter_eq_some_iff, Option.bind_eq_some_iff, hstr]

theorem declared?_eq_none (h : ∀ id, ¬ Declares v id) : declared? v = none :=
  Option.eq_none_iff_forall_ne_some.mpr fun id hid => h id (declared?_eq_some_iff.mp hid)

/-- There is one remark, of this level and about this place. -/
def SaysOnce (level : Level) (source : String) (said : List Diagnostic) : Prop :=
  ∃ d, said = [d] ∧ d.level = level ∧ d.source = source

/-- An identity, and what is said about it, come from the id of the operation, or from its tags, or from
the name of operations without either. -/
structure Identifies (c : Char) (v : Json) (source : String) (found : Identity × List Diagnostic) :
    Prop where
  declared : ∀ id, Declares v id → Divides c id found.1 ∧ found.2 = []
  tag : (∀ id, ¬ Declares v id) → ∀ t, v.strings "tags" = [t] →
    Divides c t found.1 ∧ SaysOnce .warning source found.2
  tags : (∀ id, ¬ Declares v id) → ∀ t₀ t₁ ts, v.strings "tags" = t₀ :: t₁ :: ts →
    Divides c (t₀ ++ String.ofList [c] ++ t₁) found.1 ∧ SaysOnce .warning source found.2
  nameless : (∀ id, ¬ Declares v id) → v.strings "tags" = [] →
    Divides c unknownMember found.1 ∧ SaysOnce .error source found.2
  /-- The name of operations without id and tags is their member unless the separator occurs in it. -/
  unknown : (∀ id, ¬ Declares v id) → v.strings "tags" = [] → c ∉ unknownMember.toList →
    found.1 = ⟨"", "unknown-method"⟩

section

variable (method : Method) (path : String)

theorem divides_of_tags (h : ∀ id, ¬ Declares v id) (ht : ofTags? c (v.strings "tags") = some id) :
    Divides c id (ofOperation method path v source c).1 ∧
      SaysOnce .warning source (ofOperation method path v source c).2 := by
  unfold ofOperation
  rw [declared?_eq_none h, ht]
  exact ⟨divides_split c id, _, rfl, rfl, rfl⟩

theorem divides_nameless (h : ∀ id, ¬ Declares v id) (ht : v.strings "tags" = []) :
    Divides c unknownMember (ofOperation method path v source c).1 ∧
      SaysOnce .error source (ofOperation method path v source c).2 := by
  unfold ofOperation
  rw [declared?_eq_none h, ht]
  exact ⟨divides_split c unknownMember, _, rfl, rfl, rfl⟩

end

/-- Whatever the separator, an operation is identified by its id, else by its tags, else not at all. -/
theorem identifies_operation (method : Method) (path : String) (v : Json) (source : String) (c : Char) :
    Identifies c v source (ofOperation method path v source c) where
  declared id h := by
    unfold ofOperation
    rw [declared?_eq_some_iff.mpr h]
    exact ⟨divides_split c id, rfl⟩
  tag h t ht := divides_of_tags method path h (by rw [ht]; rfl)
  tags h t₀ t₁ ts ht := divides_of_tags method path h (by rw [ht]; rfl)
  nameless h ht := divides_nameless method path h ht
  unknown h ht hfree := (divides_nameless method path h ht).1.eq_whole hfree

/-- With a hyphen as the separator the name of operations without id and tags is divided as well. -/
theorem unknown_divided_by_hyphen :
    (∀ id, ¬ Declares (.obj []) id) ∧ (Json.obj []).strings "tags" = [] ∧
      (ofOperation .get "/a" (.obj []) "#/paths/~1a/get" '-').1 = ⟨"unknown", "method"⟩ ∧
      (ofOperation .get "/a" (.obj []) "#/paths/~1a/get" '-').1 ≠ ⟨"", "unknown-method"⟩ := by
  refine ⟨fun id h => ?_, rfl, by decide +kernel, by decide +kernel⟩
  have hnone : (Json.obj []).get? "operationId" = none := rfl
  exact absurd (hnone.symm.trans h.1) (by simp)

end Identity

end ApiModel

import ApiModel.Proofs.Lockstep

/-!
# Respelling a named schema

`doc.respell x r` is the document with the node at `x` respelled. If `x` is the place of a named schema
and no reference leads above it or into the keywords that change, the document mirrors the first one,
and so both give the same answers to all questions and have the same schemas: the documents cannot be
told apart but for the warning that the respelling makes needless (`answers_respell`).
-/

namespace ApiModel

namespace Json

variable {v w : Json} {x path : Path} {key k : String} {g : Json → Json}

/-- The value with what a path leads to changed. -/
def updateAt (g : Json → Json) : Path → Json → Json
  | [], v => g v
  | key :: path, .obj fields =>
    .obj (fields.map fun p => (p.1, if p.1 = key then updateAt g path p.2 else p.2))
  | key :: path, .arr items =>
    .arr (items.zipIdx.map fun p => if Nat.repr p.2 = key then updateAt g path p.1 else p.1)
  | _ :: _, v => v

theorem children_updateAt (g : Json → Json) (key : String) (path : Path) (v : Json) :
    (updateAt g (key :: path) v).children =
      v.children.map fun p => (p.1, if p.1 = key then updateAt g path p.2 else p.2) := by
  cases v with
  | obj fields => rfl
  | arr items =>
    refine List.ext_getElem (by simp [updateAt, children]) fun i hi hi' => ?_
    simp [updateAt, children]
  | _ => rfl

theorem child?_updateAt :
    (updateAt g (key :: path) v).child? k =
      (v.child? k).map fun w => if k = key then updateAt g path w else w := by
  rw [child?, children_updateAt, child?]
  exact Assoc.get?_map (fun k w => if k = key then updateAt g path w else w) k v.children

theorem get?_updateAt (hk : k ≠ key) : (updateAt g (key :: path) v).get? k = v.get? k := by
  cases v with
  | obj fields =>
    have hmap := Assoc.get?_map (fun k w => if k = key then updateAt g path w else w) k fields
    simp only [if_neg hk, Option.map_id'] at hmap
    exact hmap
  | _ => rfl

theorem at?_updateAt_append (g : Json → Json) (x path : Path) (v : Json) :
    (updateAt g x v).at? (x ++ path) = (v.at? x).bind fun w => (g w).at? path := by
  induction x generalizing v with
  | nil => rfl
  | cons key x ih =>
    rw [List.cons_append, at?_cons, at?_cons, child?_updateAt]
    cases v.child? key with
    | none => rfl
    | some w => simp [ih]

/-- Elsewhere nothing changes. -/
theorem at?_updateAt (h : ¬ path <+: x) (h' : ¬ x <+: path) :
    (updateAt g x v).at? path = v.at? path := by
  induction x generalizing v path with
  | nil => exact absurd List.nil_prefix h'
  | cons key x ih =>
    cases path with
    | nil => exact absurd List.nil_prefix h
    | cons k path =>
      rw [at?_cons, at?_cons, child?_updateAt]
      cases v.child? k with
      | none => rfl
      | some w =>
        by_cases hk : k = key
        · subst hk
          rw [List.cons_prefix_cons] at h h'
          simpa using ih (fun hp => h ⟨rfl, hp⟩) fun hp => h' ⟨rfl, hp⟩
        · simp [hk]

end Json

namespace Document

variable {doc : Document} {x : Path} {r : Respelling} {v : Json}

/-- The places of named schemas. -/
def IsNamed (x : Path) : Prop :=
  ∃ name, x = ["components", "schemas", name] ∨ x = ["definitions", name]

/-- All local references lead to paths that are clear of the keywords. -/
def RefersClear (doc : Document) (x : Path) (keys : List String) : Prop :=
  ∀ f ∈ doc.fragments, ∀ reference ∈ f.value.reference?,
    ∀ pointer ∈ Reference.local? reference doc.selfUri, Clear x keys (Pointer.segments pointer)

instance (doc : Document) (x : Path) (keys : List String) : Decidable (doc.RefersClear x keys) :=
  inferInstanceAs (Decidable (∀ f ∈ doc.fragments, ∀ reference ∈ f.value.reference?,
    ∀ pointer ∈ Reference.local? reference doc.selfUri, Clear x keys (Pointer.segments pointer)))

def respell (doc : Document) (x : Path) (r : Respelling) : Document :=
  ⟨doc.root.updateAt r.apply x⟩

theorem selfUri_respell (hx : IsNamed x) : (doc.respell x r).selfUri = doc.selfUri := by
  obtain ⟨name, rfl | rfl⟩ := hx
  · have hkey : "$self" ≠ "components" := by decide
    exact congrArg (·.bind (·.str?)) (Json.get?_updateAt hkey)
  · have hkey : "$self" ≠ "definitions" := by decide
    exact congrArg (·.bind (·.str?)) (Json.get?_updateAt hkey)

/-- Below the node that is respelled only the keywords change. -/
theorem at?_respell (hv : doc.at? x = some v) (hr : r.Applies v) {path : Path}
    (hc : Clear x r.keys path) (hne : path ≠ x) : (doc.respell x r).at? path = doc.at? path := by
  by_cases hbelow : x <+: path
  · obtain ⟨rest, rfl⟩ := hbelow
    cases rest with
    | nil => exact absurd (List.append_nil x) hne
    | cons key rest =>
      have hk : key ∉ r.keys := by
        intro hm
        have hpath : x ++ [key] <+: x ++ key :: rest := by simp
        exact hc.inside key hm hpath
      have hv : doc.root.at? x = some v := hv
      have hchild : (r.apply v).child? key = v.child? key := by
        rw [Json.child?_eq_get? (Respelling.isSome_obj?_apply hr),
          Json.child?_eq_get? (Respelling.isSome_obj?_of_applies hr), Respelling.get?_apply hr hk]
      rw [at?, respell, Json.at?_updateAt_append, at?, Json.at?_append, hv, Option.bind_some,
        Option.bind_some, Json.at?_cons, Json.at?_cons, hchild]
  · exact Json.at?_updateAt (fun habove => hne (hc.above habove)) hbelow

theorem mirrors_respell (hx : IsNamed x) (hv : doc.at? x = some v) (hplain : v.reference? = none)
    (hr : r.Applies v) (hn : r.KeepsNull v) (hrefs : doc.RefersClear x r.keys) :
    doc.Mirrors (doc.respell x r) x r where
  selfUri := selfUri_respell hx
  at? _ := at?_respell hv hr
  node := by
    have hv' : (doc.respell x r).at? x = some (r.apply v) := by
      have hroot : doc.root.at? x = some v := hv
      have happend := Json.at?_updateAt_append r.apply x [] doc.root
      rw [List.append_nil, hroot] at happend
      exact happend
    exact ⟨v, r.apply v, hv, hv', hplain, Respelling.alike_apply hr hn,
      Respelling.correction?_apply hr hn⟩
  refs f hf := hrefs f (Json.mem_fragmentsAt hf)

/-! ### Questions and answers -/

/-- A pointer to what is to be classified, and a name for it. -/
structure Question where
  pointer : String
  name? : Option String

/-- The schema of what the pointer stands for; none if nothing is there. -/
def answer (doc : Document) (q : Question) : Classify (Option SchemaId) :=
  match doc.resolvePointer q.pointer with
  | .error r => throw r
  | .ok none => pure none
  | .ok (some t) =>
    some <$> Classify.classify doc (q.name?.getD (t.name.getD "unnamed")) t.toFragment

/-- The answers to some questions, one after the other, whatever comes of each. -/
def answers (doc : Document) :
    List Question → Progress → List (Except Rejection (Option SchemaId)) × Progress
  | [], p => ([], p)
  | q :: qs, p =>
    match doc.answer q p with
    | .ok id? p => let (more, p) := doc.answers qs p; (.ok id? :: more, p)
    | .error r p => let (more, p) := doc.answers qs p; (.error r :: more, p)

section

variable {doc' : Document} (h : doc.Mirrors doc' x r)

include h

theorem lockstep_answer {q : Question}
    (hq : ∀ path ∈ Pointer.literal? q.pointer, Clear x r.keys path) :
    Classify.Lockstep x r (doc.answer q) (doc'.answer q) := by
  unfold answer
  rw [h.resolvePointer_eq hq]
  cases ht : doc.resolvePointer q.pointer with
  | error why => exact .throw why
  | ok t? =>
    cases t? with
    | none => exact .pure none
    | some t =>
      have hf := h.visible_of_resolvePointer hq ht
      exact (Classify.lockstep_classifyWithin h [] _ hf).map some

theorem answers_eq {qs : List Question}
    (hqs : ∀ q ∈ qs, ∀ path ∈ Pointer.literal? q.pointer, Clear x r.keys path) {p p' : Progress}
    (hp : p.Follows x r p') :
    (doc'.answers qs p').1 = (doc.answers qs p).1 ∧
      (doc.answers qs p).2.Follows x r (doc'.answers qs p').2 := by
  induction qs generalizing p p' with
  | nil => exact ⟨rfl, hp⟩
  | cons q qs ih =>
    obtain ⟨hq, hqs⟩ := List.forall_mem_cons.mp hqs
    have hstep := lockstep_answer h hq p p' hp
    unfold answers
    generalize doc.answer q p = u, doc'.answer q p' = u' at hstep
    cases hstep with
    | ok id? hq =>
      obtain ⟨hmore, hlast⟩ := ih hqs hq
      exact ⟨congrArg (List.cons (.ok id?)) hmore, hlast⟩
    | error why hq =>
      obtain ⟨hmore, hlast⟩ := ih hqs hq
      exact ⟨congrArg (List.cons (.error why)) hmore, hlast⟩

end

/-- A named schema may be respelled: all questions get the same answers, the schemas are the same, and
so is what is reported but for at most one warning that is no longer needed. -/
theorem answers_respell (doc : Document) {x : Path} (hx : IsNamed x) {v : Json}
    (hv : doc.at? x = some v) (hplain : v.reference? = none) {r : Respelling} (hr : r.Applies v)
    (hn : r.KeepsNull v) (hrefs : doc.RefersClear x r.keys) (qs : List Question)
    (hqs : ∀ q ∈ qs, ∀ path ∈ Pointer.literal? q.pointer, Clear x r.keys path) :
    let run := doc.answers qs {}
    let run' := (doc.respell x r).answers qs {}
    run'.1 = run.1 ∧ run'.2.catalog = run.2.catalog ∧
      run'.2.diagnostics.toList = run.2.diagnostics.toList.filter (fun d => !r.excuses x d) ∧
      run.2.diagnostics.toList.countP (r.excuses x) ≤ 1 := by
  have hmirrors := mirrors_respell hx hv hplain hr hn hrefs
  obtain ⟨hanswers, hp⟩ := answers_eq hmirrors hqs .initial
  exact ⟨hanswers, hp.catalog_eq, hp.said, hp.once⟩

/-- A schema without a type that refers to itself. -/
def withKennel.dog : Json :=
  .obj [("nullable", .bool true), ("properties", .obj [
    ("mother", .obj [("$ref", .str "#/components/schemas/Dog")]),
    ("tail", .obj [("type", .str "wagging")])])]

def withKennel : Document where
  root := .obj [("components", .obj [("schemas", .obj [
    ("Kennel", .obj [("type", .str "array"),
      ("items", .obj [("$ref", .str "#/components/schemas/Dog")])]),
    ("Dog", withKennel.dog)])])]

def withKennel.questions : List Question :=
  [⟨"#/components/schemas/Kennel", none⟩, ⟨"#/components/schemas/Dog", some "Hound"⟩,
    ⟨"#/components/schemas/Cat", none⟩]

theorem answers_respell_withKennel :
    let x := ["components", "schemas", "Dog"]
    let run := withKennel.answers withKennel.questions {}
    let run' := (withKennel.respell x .object).answers withKennel.questions {}
    IsNamed x ∧ withKennel.at? x = some withKennel.dog ∧ withKennel.dog.reference? = none ∧
      Respelling.object.Applies withKennel.dog ∧ Respelling.object.KeepsNull withKennel.dog ∧
      withKennel.RefersClear x Respelling.object.keys ∧
      (∀ q ∈ withKennel.questions, ∀ path ∈ Pointer.literal? q.pointer,
        Clear x Respelling.object.keys path) ∧
      run'.1 = run.1 ∧ run'.2.catalog = run.2.catalog ∧
      run'.2.diagnostics.toList =
        run.2.diagnostics.toList.filter (fun d => !Respelling.object.excuses x d) ∧
      run.2.diagnostics.toList.countP (Respelling.object.excuses x) ≤ 1 := by
  intro x run run'
  have hx : IsNamed x := ⟨"Dog", .inl rfl⟩
  have happlies : Respelling.object.Applies withKennel.dog := by
    exact ⟨by decide, by decide, by decide, by decide⟩
  have hrefs : withKennel.RefersClear x Respelling.object.keys := by
    decide +kernel
  have hqs : ∀ q ∈ withKennel.questions, ∀ path ∈ Pointer.literal? q.pointer,
      Clear x Respelling.object.keys path := by
    decide +kernel
  exact ⟨hx, rfl, rfl, happlies, trivial, hrefs, hqs,
    answers_respell withKennel hx rfl rfl happlies trivial hrefs withKennel.questions hqs⟩

/-- A file that may be null, which only its list of types says. -/
def withNullableFile.file : Json :=
  .obj [("type", .arr [.str "string", .str "null"]), ("format", .str "file")]

def withNullableFile : Document where
  root := .obj [("components", .obj [("schemas", .obj [
    ("F", withNullableFile.file),
    ("H", .obj [("type", .str "object"), ("properties", .obj [
      ("f", .obj [("$ref", .str "#/components/schemas/F")])])])])])]

def withNullableFile.question : Question := ⟨"#/components/schemas/H", none⟩

/-- Which of the properties of a schema are nullable. -/
def nullables (p : Progress) (id : SchemaId) : List Bool :=
  ((p.catalog.get? id).map fun s => s.kind.properties.map (·.nullable)).getD []

/-- Null is lost with the list, so a property that refers to the file is no longer nullable. -/
theorem catalog_ne_of_lost_null :
    let x := ["components", "schemas", "F"]
    let run := withNullableFile.answers [withNullableFile.question] {}
    let run' := (withNullableFile.respell x .file).answers [withNullableFile.question] {}
    IsNamed x ∧ withNullableFile.at? x = some withNullableFile.file ∧
      withNullableFile.file.reference? = none ∧ Respelling.file.Applies withNullableFile.file ∧
      withNullableFile.RefersClear x Respelling.file.keys ∧
      (∀ path ∈ Pointer.literal? withNullableFile.question.pointer,
        Clear x Respelling.file.keys path) ∧
      run'.2.catalog ≠ run.2.catalog := by
  intro x run run'
  have happlies : Respelling.file.Applies withNullableFile.file := .inr (by decide)
  have hrefs : withNullableFile.RefersClear x Respelling.file.keys := by decide +kernel
  have hq : ∀ path ∈ Pointer.literal? withNullableFile.question.pointer,
      Clear x Respelling.file.keys path := by
    decide +kernel
  refine ⟨⟨"F", .inl rfl⟩, rfl, rfl, happlies, hrefs, hq, fun he => ?_⟩
  have hbefore : nullables run.2 ⟨0⟩ = [true] := by decide +kernel
  have hafter : nullables run'.2 ⟨0⟩ = [false] := by decide +kernel
  have hsame : nullables run'.2 ⟨0⟩ = nullables run.2 ⟨0⟩ := by rw [nullables, he]; rfl
  rw [hbefore, hafter] at hsame
  cases hsame

end Document

end ApiModel

import ApiModel.Proofs.Dependency
import ApiModel.Proofs.Lists

/-!
# Schemas that depict nodes

`Depicts doc d f s`: the schema `s` says of the node `f` what the document says of it, with the ids that
the directory `d` has for the nodes that the slots of `f` stand for, slot by slot and in document
order. A directory is what is known of a catalog in progress: the ids of nodes, the schemas of ids, and
the id of the schema of any value.

What a depiction needs of its directory is in reach of the schema (`InReach`): its references, and those
of the schemas that it refers to. A directory that keeps these keeps the depiction
(`Depicts.of_inReach`), and every dependency of the node is among them (`Depicts.exists_shows`).
-/

namespace ApiModel

open Classify (Section)

structure Directory where
  has : Path → SchemaId → Prop
  schema? : SchemaId → Option Schema
  anyId : Option SchemaId

namespace Directory

variable (doc : Document) (d : Directory)

/-- What the first directory knows the second knows too. -/
structure Le (d d' : Directory) : Prop where
  has : ∀ path id, d.has path id → d'.has path id
  schema? : ∀ id s, d.schema? id = some s → d'.schema? id = some s
  anyId : ∀ id, d.anyId = some id → d'.anyId = some id

/-- The id is that of the node that the slot stands for. -/
def Shows (slot : Path) (id : SchemaId) : Prop :=
  ∃ t, doc.resolve slot = .ok (some t) ∧ d.has t.path id

def ShowsProperty (required : List String) (e : String × Path) (p : Property) : Prop :=
  ∃ t, doc.resolve e.2 = .ok (some t) ∧ ∃ id, d.has t.path id ∧
    p = Classify.property e.1 ((doc.at? e.2).getD t.value) t.value id (required.contains e.1)

/-- The kind that a keyword of an object makes, if it makes one. -/
inductive DepictsSection (f : Fragment) : Section → Option Schema.Kind → Prop
  | properties {ps : List Property} (h : f.value.hasEntries "properties")
      (hp : List.Forall₂ (d.ShowsProperty doc (f.value.strings "required"))
        (doc.entries (f.slot "properties")) ps) :
      DepictsSection f .properties
        (some (.object ps (f.value.natural? "minProperties") (f.value.natural? "maxProperties")))
  | noProperties (h : f.value.hasEntries "properties" = false) : DepictsSection f .properties none
  | anyValue {id : SchemaId} (h : f.value.additionalProperties = .any) (hid : d.anyId = some id) :
      DepictsSection f .additionalProperties (some (.dictionary id))
  | values {id : SchemaId} (h : f.value.additionalProperties = .schema)
      (hid : d.Shows doc (f.slot "additionalProperties") id) :
      DepictsSection f .additionalProperties (some (.dictionary id))
  | closed (h : f.value.additionalProperties = .closed) :
      DepictsSection f .additionalProperties none
  | anyOf {ids : List SchemaId} (h : f.value.hasItems "anyOf")
      (hi : List.Forall₂ (d.Shows doc) (doc.items (f.slot "anyOf")) ids) :
      DepictsSection f .anyOf (some (.anyOf ids))
  | noAnyOf (h : f.value.hasItems "anyOf" = false) : DepictsSection f .anyOf none
  | oneOf {ids : List SchemaId} (h : f.value.hasItems "oneOf")
      (hi : List.Forall₂ (d.Shows doc) (doc.items (f.slot "oneOf")) ids) :
      DepictsSection f .oneOf (some (.oneOf ids))
  | noOneOf (h : f.value.hasItems "oneOf" = false) : DepictsSection f .oneOf none

/-- The kinds of some keywords, those that make none left out. -/
def partsOf (kinds : Section → Option Schema.Kind) (sections : List Section) :
    List (Section × Schema.Kind) :=
  sections.flatMap fun s => (kinds s).toList.map (s, ·)

/-- The slot holds the schema of a part of an object. -/
def HoldsPart (name : String) (id : SchemaId) (part : Section × Schema.Kind) : Prop :=
  d.schema? id = some (.undescribed s!"{name}.{part.1.key}" part.2)

/-- The kind of an object with parents and parts: that of its single part, or all of them as
members. -/
inductive Assembles (name : String) :
    List SchemaId → List (Section × Schema.Kind) → Schema.Kind → Prop
  | empty : Assembles name [] [] (.object [] none none)
  | single (s : Section) (kind : Schema.Kind) : Assembles name [] [(s, kind)] kind
  | members {parents ids : List SchemaId} {parts : List (Section × Schema.Kind)}
      (h : parents ≠ [] ∨ 2 ≤ parts.length) (hi : List.Forall₂ (d.HoldsPart name) ids parts) :
      Assembles name parents parts (.allOf (parents ++ ids))

/-- The type of the values of a choice is a plain schema of its own, or that of any value. -/
def ShowsValueType (name : String) (v : Json) (id : SchemaId) : Prop :=
  match v.choiceKind? with
  | some kind => d.schema? id = some (.undescribed s!"{name}.choiceType" kind)
  | none => d.anyId = some id

inductive Depicts (f : Fragment) : Schema → Prop
  | choice {name : String} {id : SchemaId} (h : f.value.form = .choice)
      (ht : d.ShowsValueType (f.value.choiceName?.getD name) f.value id) :
      Depicts f (.describedBy (f.value.choiceName?.getD name) f.value
        (.choice f.value.choices id f.value.isSealed))
  | plain {name : String} {kind : Schema.Kind} (h : f.value.form = .plain kind) :
      Depicts f (.describedBy name f.value kind)
  | array {name : String} {id : SchemaId} (h : f.value.form = .array)
      (hid : d.Shows doc (f.slot "items") id) :
      Depicts f (.describedBy name f.value
        (.array id (f.value.natural? "minItems") (f.value.natural? "maxItems")
          (f.value.flag "uniqueItems")))
  | object {name : String} {parents : List SchemaId} {kinds : Section → Option Schema.Kind}
      {kind : Schema.Kind} (h : f.value.form = .object) (hn : Document.isAmbiguous f = false)
      (hp : List.Forall₂ (d.Shows doc) (doc.items (f.slot "allOf")) parents)
      (hs : ∀ s, d.DepictsSection doc f s (kinds s))
      (ha : d.Assembles name parents (partsOf kinds Section.all) kind) :
      Depicts f (.describedBy name f.value kind)

/-- The id of a node that `f` depends on. -/
def Below (f : Fragment) (id : SchemaId) : Prop :=
  ∃ slot ∈ doc.dependencySlots f, d.Shows doc slot id

/-- An id that the kind refers to, or that a schema which it refers to does. -/
def InReach (kind : Schema.Kind) (id : SchemaId) : Prop :=
  id ∈ kind.references ∨
    ∃ r ∈ kind.references, ∃ part, d.schema? r = some part ∧ id ∈ part.references

variable {doc d} {d' : Directory} {f : Fragment}

theorem Shows.mono (hle : d.Le d') {slot : Path} {id : SchemaId} (h : d.Shows doc slot id) :
    d'.Shows doc slot id :=
  let ⟨t, ht, hid⟩ := h
  ⟨t, ht, hle.has _ _ hid⟩

namespace DepictsSection

variable {s : Section} {kind : Schema.Kind} {kind? : Option Schema.Kind}

theorem below_or_any (hf : f.value.form = .object) (h : d.DepictsSection doc f s (some kind))
    {id : SchemaId} (hid : id ∈ kind.references) : d.Below doc f id ∨ d.anyId = some id := by
  have mem : ∀ {slot}, slot ∈ doc.sectionSlots f s → d.Shows doc slot id → d.Below doc f id :=
    fun hm hs => ⟨_, Document.mem_dependencySlots_of_section hf hm, hs⟩
  cases h with
  | properties h hp =>
    obtain ⟨p, hp', rfl⟩ := List.mem_map.mp hid
    obtain ⟨e, he, t, ht, _, hhas, rfl⟩ := exists_left_of_forall₂ hp hp'
    refine .inl (mem ?_ ⟨t, ht, hhas⟩)
    simp only [Document.sectionSlots, h, if_true]
    exact List.mem_map_of_mem he
  | anyValue _ hany => rw [List.mem_singleton.mp hid]; exact .inr hany
  | values h hs =>
    rw [List.mem_singleton.mp hid] at mem ⊢
    exact .inl (mem (by simp [Document.sectionSlots, h]) hs)
  | anyOf h hi | oneOf h hi =>
    obtain ⟨slot, hm, hs⟩ := exists_left_of_forall₂ hi hid
    exact .inl (mem (by simpa [Document.sectionSlots, h] using hm) hs)

theorem exists_shows (h : d.DepictsSection doc f s kind?) {slot : Path}
    (hm : slot ∈ doc.sectionSlots f s) :
    ∃ kind, kind? = some kind ∧ ∃ id ∈ kind.references, d.Shows doc slot id := by
  cases h with
  | properties h hp =>
    simp only [Document.sectionSlots, h, if_true] at hm
    obtain ⟨e, he, rfl⟩ := List.mem_map.mp hm
    obtain ⟨p, hp, t, ht, id, hid, rfl⟩ := exists_right_of_forall₂ hp he
    exact ⟨_, rfl, id, List.mem_map.mpr ⟨_, hp, rfl⟩, t, ht, hid⟩
  | values h hs =>
    simp only [Document.sectionSlots, h, if_true, List.mem_singleton] at hm
    exact ⟨_, rfl, _, List.mem_singleton_self _, hm ▸ hs⟩
  | anyOf h hi | oneOf h hi =>
    simp only [Document.sectionSlots, h, if_true] at hm
    obtain ⟨id, hid, hs⟩ := exists_right_of_forall₂ hi hm
    exact ⟨_, rfl, id, hid, hs⟩
  | noProperties h | anyValue h | closed h | noAnyOf h | noOneOf h =>
    simp [Document.sectionSlots, h] at hm

theorem of_references (h : d.DepictsSection doc f s kind?)
    (hh : ∀ kind ∈ kind?, ∀ id ∈ kind.references, ∀ path, d.has path id → d'.has path id)
    (ha : ∀ id, d.anyId = some id → d'.anyId = some id) : d'.DepictsSection doc f s kind? := by
  cases h with
  | properties h hp =>
    refine .properties h (forall₂_imp_of_mem hp ?_)
    rintro e _ hm ⟨t, ht, id, hid, rfl⟩
    exact ⟨t, ht, id, hh _ rfl id (List.mem_map.mpr ⟨_, hm, rfl⟩) _ hid, rfl⟩
  | noProperties h => exact .noProperties h
  | anyValue h hid => exact .anyValue h (ha _ hid)
  | values h hs =>
    obtain ⟨t, ht, hid⟩ := hs
    exact .values h ⟨t, ht, hh _ rfl _ (List.mem_singleton_self _) _ hid⟩
  | closed h => exact .closed h
  | anyOf h hi =>
    exact .anyOf h (forall₂_imp_of_mem hi fun _ id hm ⟨t, ht, hid⟩ => ⟨t, ht, hh _ rfl id hm _ hid⟩)
  | noAnyOf h => exact .noAnyOf h
  | oneOf h hi =>
    exact .oneOf h (forall₂_imp_of_mem hi fun _ id hm ⟨t, ht, hid⟩ => ⟨t, ht, hh _ rfl id hm _ hid⟩)
  | noOneOf h => exact .noOneOf h

theorem mono (hle : d.Le d') (h : d.DepictsSection doc f s kind?) :
    d'.DepictsSection doc f s kind? :=
  h.of_references (fun _ _ _ _ _ => hle.has _ _) hle.anyId

theorem kind_ne_any (h : d.DepictsSection doc f s (some kind)) : kind ≠ .any := by
  cases h <;> simp

end DepictsSection

theorem mem_partsOf {kinds : Section → Option Schema.Kind} {sections : List Section}
    {part : Section × Schema.Kind} :
    part ∈ partsOf kinds sections ↔ part.1 ∈ sections ∧ kinds part.1 = some part.2 := by
  obtain ⟨s, k⟩ := part
  simp only [partsOf, List.mem_flatMap, List.mem_map, Option.mem_toList, Prod.mk.injEq]
  constructor
  · rintro ⟨s', hs, k', hk, rfl, rfl⟩
    exact ⟨hs, hk⟩
  · rintro ⟨hs, hk⟩
    exact ⟨s, hs, k, hk, rfl, rfl⟩

theorem mem_partsOf_all {kinds : Section → Option Schema.Kind} {s : Section} {kind : Schema.Kind}
    (h : kinds s = some kind) : (s, kind) ∈ partsOf kinds Section.all :=
  mem_partsOf.mpr ⟨s.mem_all, h⟩

theorem DepictsSection.of_mem_partsOf {kinds : Section → Option Schema.Kind} {sections : List Section}
    (hs : ∀ s ∈ sections, d.DepictsSection doc f s (kinds s)) {part : Section × Schema.Kind}
    (hm : part ∈ partsOf kinds sections) : d.DepictsSection doc f part.1 (some part.2) := by
  obtain ⟨hsec, hkind⟩ := mem_partsOf.mp hm
  rw [← hkind]
  exact hs part.1 hsec

namespace Assembles

variable {name : String} {parents : List SchemaId} {parts : List (Section × Schema.Kind)}
  {kind : Schema.Kind}

theorem parent_mem (h : d.Assembles name parents parts kind) {id : SchemaId} (hid : id ∈ parents) :
    id ∈ kind.references := by
  cases h with
  | empty | single => cases hid
  | members => exact List.mem_append_left _ hid

theorem inReach_part (h : d.Assembles name parents parts kind) {part : Section × Schema.Kind}
    (hm : part ∈ parts) {id : SchemaId} (hid : id ∈ part.2.references) : d.InReach kind id := by
  cases h with
  | empty => cases hm
  | single => rw [List.mem_singleton.mp hm] at hid; exact .inl hid
  | members _ hi =>
    obtain ⟨r, hr, hs⟩ := exists_left_of_forall₂ hi hm
    exact .inr ⟨r, List.mem_append_right _ hr, _, hs, hid⟩

/-- A reference is a parent, or of the single part, or to a part. -/
theorem reference (h : d.Assembles name parents parts kind) {id : SchemaId}
    (hid : id ∈ kind.references) :
    id ∈ parents ∨ ∃ part ∈ parts, id ∈ part.2.references ∨ d.HoldsPart name id part := by
  cases h with
  | empty => cases hid
  | single s kind => exact .inr ⟨_, List.mem_singleton_self _, .inl hid⟩
  | members _ hi =>
    rcases List.mem_append.mp hid with hid | hid
    · exact .inl hid
    · obtain ⟨part, hp, hs⟩ := exists_right_of_forall₂ hi hid
      exact .inr ⟨part, hp, .inr hs⟩

theorem kind_ne_any (h : d.Assembles name parents parts kind)
    (hp : ∀ part ∈ parts, part.2 ≠ .any) : kind ≠ .any := by
  cases h with
  | empty | members => simp
  | single s kind => exact hp _ (List.mem_singleton_self _)

theorem of_schema? (h : d.Assembles name parents parts kind)
    (hs : ∀ id ∈ kind.references, ∀ s, d.schema? id = some s → d'.schema? id = some s) :
    d'.Assembles name parents parts kind := by
  cases h with
  | empty => exact .empty
  | single s kind => exact .single s kind
  | members h hi =>
    refine .members h (List.Forall₂.flip (forall₂_imp_of_mem (List.Forall₂.flip hi) ?_))
    intro part id hid hp
    exact hs id (List.mem_append_right _ hid) _ hp

end Assembles

namespace Depicts

variable {s : Schema}

/-- A reference leads to a node that `f` depends on, to any value, or to a schema made for `f` that
itself leads to nothing else. -/
theorem reference (h : d.Depicts doc f s) {r : SchemaId} (hr : r ∈ s.references) :
    d.Below doc f r ∨ d.anyId = some r ∨
      ∃ part, d.schema? r = some part ∧
        ∀ id ∈ part.references, d.Below doc f id ∨ d.anyId = some id := by
  cases h with
  | @choice name id hf ht =>
    rw [List.mem_singleton.mp hr]
    unfold ShowsValueType at ht
    split at ht
    · rename_i kind hk
      refine .inr (.inr ⟨_, ht, fun id hid => ?_⟩)
      rw [Schema.references, Schema.kind_undescribed, (Json.plain_of_choiceKind? hk).1] at hid
      cases hid
    · exact .inr (.inl ht)
  | plain hf =>
    rw [Schema.references, Schema.kind_describedBy, (Json.plain_of_form hf).1] at hr
    cases hr
  | array hf hid =>
    rw [List.mem_singleton.mp hr]
    exact .inl ⟨_, by simp [Document.dependencySlots_array hf], hid⟩
  | object hf hn hp hs ha =>
    rcases ha.reference hr with hid | ⟨part, hm, hid⟩
    · obtain ⟨slot, hm, hsh⟩ := exists_left_of_forall₂ hp hid
      refine .inl ⟨slot, ?_, hsh⟩
      rw [Document.dependencySlots_object hf]
      exact List.mem_append_left _ hm
    · have hsec := DepictsSection.of_mem_partsOf (fun s _ => hs s) hm
      rcases hid with hid | hid
      · exact (hsec.below_or_any hf hid).imp_right .inl
      · exact .inr (.inr ⟨_, hid, fun _ => hsec.below_or_any hf⟩)

/-- What every dependency slot stands for has an id within reach. -/
theorem exists_shows (h : d.Depicts doc f s) {slot : Path} (hm : slot ∈ doc.dependencySlots f) :
    ∃ id, d.InReach s.kind id ∧ d.Shows doc slot id := by
  cases h with
  | choice hf | plain hf => simp [Document.dependencySlots, hf] at hm
  | array hf hid =>
    rw [Document.dependencySlots_array hf, List.mem_singleton] at hm
    exact ⟨_, .inl (List.mem_singleton_self _), hm ▸ hid⟩
  | object hf hn hp hs ha =>
    rw [Document.dependencySlots_object hf, List.mem_append, List.mem_flatMap] at hm
    rcases hm with hm | ⟨sec, -, hm⟩
    · obtain ⟨id, hid, hsh⟩ := exists_right_of_forall₂ hp hm
      exact ⟨id, .inl (ha.parent_mem hid), hsh⟩
    · obtain ⟨kind, hk, id, hid, hsh⟩ := (hs sec).exists_shows hm
      exact ⟨id, ha.inReach_part (mem_partsOf_all hk) hid, hsh⟩

theorem not_invalid (h : d.Depicts doc f s) : ¬ doc.Invalid f := by
  rintro (hi | ⟨slot, hm, r, hr⟩)
  · unfold Document.IllFormed at hi
    cases h with
    | choice hf | plain hf => simp [hf] at hi
    | array hf hid =>
      obtain ⟨t, ht, -⟩ := hid
      simp [hf, ht] at hi
    | object hf hn => simp [hf, hn] at hi
  · obtain ⟨id, -, t, ht, -⟩ := h.exists_shows hm
    rw [ht] at hr
    cases hr

theorem of_inReach (h : d.Depicts doc f s)
    (hh : ∀ id, d.InReach s.kind id → ∀ path, d.has path id → d'.has path id)
    (hs : ∀ r ∈ s.references, ∀ s', d.schema? r = some s' → d'.schema? r = some s')
    (ha : ∀ id, d.anyId = some id → d'.anyId = some id) : d'.Depicts doc f s := by
  cases h with
  | choice hf ht =>
    refine .choice hf ?_
    unfold ShowsValueType at ht ⊢
    split
    · rename_i kind hk
      simp only [hk] at ht
      exact hs _ (List.mem_singleton_self _) _ ht
    · rename_i hk
      simp only [hk] at ht
      exact ha _ ht
  | plain hf => exact .plain hf
  | array hf hid =>
    obtain ⟨t, ht, hid⟩ := hid
    exact .array hf ⟨t, ht, hh _ (.inl (List.mem_singleton_self _)) _ hid⟩
  | object hf hn hp hsec hass =>
    refine .object hf hn (forall₂_imp_of_mem hp ?_) (fun sec => ?_) (hass.of_schema? hs)
    · rintro slot id hm ⟨t, ht, hid⟩
      exact ⟨t, ht, hh _ (.inl (hass.parent_mem hm)) _ hid⟩
    · exact (hsec sec).of_references
        (fun kind hk id hid => hh id (hass.inReach_part (mem_partsOf_all hk) hid)) ha

theorem mono (hle : d.Le d') (h : d.Depicts doc f s) : d'.Depicts doc f s :=
  h.of_inReach (fun _ _ _ => hle.has _ _) (fun _ _ => hle.schema? _) hle.anyId

theorem kind_ne_any (h : d.Depicts doc f s) : s.kind ≠ .any := by
  cases h with
  | choice | array => simp
  | plain hf => exact (Json.plain_of_form hf).2
  | object hf hn hp hs ha =>
    refine ha.kind_ne_any fun part hm => ?_
    exact (DepictsSection.of_mem_partsOf (fun s _ => hs s) hm).kind_ne_any

end Depicts

end Directory

end ApiModel

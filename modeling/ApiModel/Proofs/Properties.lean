import ApiModel.Proofs.Composition

/-!
# The properties of objects

The object that is built for a node with `properties` is the schema of the node itself or a part that
it lists, and there is one such object (`IsObjectOf`). Its properties are those that the node declares,
in the order in which it declares them, except that a key which is written like an extension makes none
(`declared_properties`). What one property says is read from two places, the value at its key and the
node that this stands for (`SaysProperty`).
-/

namespace ApiModel

open Classify (Section)

namespace Progress

variable {doc : Document} {p : Progress} {f : Fragment} {id : SchemaId} {name key : String}
  {ps qs : List Property} {parents : List SchemaId} {kinds : Section → Option Schema.Kind}
  {kind : Schema.Kind}

/-- The kind of an object with the bounds that the node sets on the number of its properties. -/
abbrev objectKind (f : Fragment) (ps : List Property) : Schema.Kind :=
  .object ps (f.value.natural? "minProperties") (f.value.natural? "maxProperties")

/-- An object with these properties is built for the node at `id`: it is the schema there, or a part
which that schema lists and which is the schema of no node. -/
inductive IsObjectOf (p : Progress) (f : Fragment) (id : SchemaId) (ps : List Property) : Prop
  | self {name : String} (h : p.catalog.get? id = some (.describedBy name f.value (objectKind f ps)))
  | part {name : String} {members : List SchemaId} {k : SchemaId}
      (h : p.catalog.get? id = some (.describedBy name f.value (.allOf members))) (hk : k ∈ members)
      (hr : k ∉ p.reserved.map (·.2))
      (hp : p.catalog.get? k = some (.undescribed s!"{name}.{Section.properties.key}" (objectKind f ps)))

/-- What the property says of a key that the node declares: whether the node requires it, the schema of
the node that its value stands for, and what the two say of reading and of null. -/
structure SaysProperty (doc : Document) (p : Progress) (f : Fragment) (key : String) (q : Property)
    (value : Json) (t : Target) : Prop where
  serializedName : q.serializedName = key
  required : q.required ↔ .str key ∈ (f.value.list? "required").getD []
  declared : doc.at? (f.slot "properties" ++ [key]) = some value
  target : doc.resolve (f.slot "properties" ++ [key]) = .ok (some t)
  schema : p.memo.get? t.path = some (.done q.schema)
  readOnly : q.readOnly ↔ value.flag "readOnly" ∨ t.value.flag "readOnly"
  nullable : q.nullable ↔ value.flag "nullable" ∨ value.flag "x-nullable" ∨ t.value.flag "nullable" ∨
    t.value.flag "x-nullable" ∨ .str "null" ∈ (t.value.list? "type").getD []

/-- The one object that is built for the node has one property for each of the keys, in their order. -/
def HasProperties (doc : Document) (p : Progress) (f : Fragment) (id : SchemaId)
    (keys : List String) : Prop :=
  ∃ ps, (∀ qs, p.IsObjectOf f id qs ↔ qs = ps) ∧
    List.Forall₂ (fun key q => ∃ value t, p.SaysProperty doc f key q value t) keys ps

theorem section_eq_of_makes_object {s : Section} {min max : Option Nat}
    (h : s.Makes (.object ps min max)) : s = .properties := by
  cases s with
  | properties => rfl
  | additionalProperties | anyOf | oneOf => exact h.elim

/-- A node with properties is composed of one object that has them. -/
theorem ComposedOf.isObjectOf_iff (h : p.ComposedOf doc f id name parents kinds kind)
    (hl : p.Ledger []) (hk : kinds .properties = some (objectKind f ps)) :
    p.IsObjectOf f id qs ↔ qs = ps := by
  have hm := Directory.mem_partsOf_all hk
  have hone : ∀ {s : Section} {ps' : List Property},
      (s, objectKind f ps') ∈ Directory.partsOf kinds Section.all → ps' = ps := by
    intro s ps' hpart
    have hdepicts := Directory.DepictsSection.of_mem_partsOf (fun s _ => h.sections s) hpart
    cases section_eq_of_makes_object hdepicts.makes
    cases hk.symm.trans (Directory.mem_partsOf.mp hpart).2
    rfl
  have hstored := h.stored
  have hkind : ∀ {name' : String} {kind' : Schema.Kind},
      p.catalog.get? id = some (.describedBy name' f.value kind') → kind = kind' := fun hs =>
    congrArg Schema.kind (Option.some.inj (hstored.symm.trans hs))
  have hwhole := h.whole
  generalize Directory.partsOf kinds Section.all = parts at hm hone hwhole
  cases hwhole with
  | empty => cases hm
  | single s kind =>
    cases List.mem_singleton.mp hm
    constructor
    · rintro (hself | ⟨hlist, -, -, -⟩)
      · cases hkind hself
        rfl
      · cases hkind hlist
    · rintro rfl
      exact .self hstored
  | @members _ ids _ hlen hi hnodup hr ho =>
    constructor
    · rintro (hself | @⟨name', members, k, hlist, hkm, hkr, hkp⟩)
      · cases hkind hself
      · cases hkind hlist
        -- A parent is the schema of a node, so the member is one of the parts.
        have hkids : k ∈ ids := by
          refine (List.mem_append.mp hkm).resolve_left fun hparent => hkr ?_
          obtain ⟨slot, -, t, -, hdone⟩ := exists_left_of_forall₂ h.lists hparent
          exact List.mem_map.mpr ⟨_, hl.mem_reserved (idOf?_of_done hdone), rfl⟩
        obtain ⟨⟨s, kind⟩, hpart, hholds⟩ := exists_right_of_forall₂ hi hkids
        have hsame : objectKind f qs = kind :=
          congrArg Schema.kind (Option.some.inj (hkp.symm.trans hholds))
        rw [← hsame] at hpart
        exact hone hpart
    · rintro rfl
      obtain ⟨k, hkids, hholds⟩ := exists_left_of_forall₂ hi hm
      exact .part hstored (List.mem_append_right _ hkids) (hr k hkids) hholds

/-! ### What a property says -/

theorem exists_saysProperty {q : Property}
    (h : p.finished.ShowsProperty doc (f.value.strings "required")
      (key, f.slot "properties" ++ [key]) q) :
    ∃ value t, p.SaysProperty doc f key q value t := by
  obtain ⟨t, ht, k, hid, rfl⟩ := h
  cases hvalue : doc.at? (f.slot "properties" ++ [key]) with
  | none => cases ht.symm.trans (Document.resolve_eq_none_iff.mpr hvalue)
  | some value =>
    refine ⟨value, t, rfl, ?required, hvalue, ht, hid, ?readOnly, ?nullable⟩
    case required => simp [Classify.property, ← Json.mem_strings_iff]
    case readOnly => simp [Classify.property]
    case nullable =>
      simp only [Classify.property, Option.getD_some, Bool.or_eq_true, Json.isNullable_iff]
      tauto

end Progress

namespace Document

/-- An object has one property for each key of `properties` that is not written like an extension, in
the order of the document, and no others. -/
theorem declared_properties (doc : Document) (steps : List (Step doc)) (f : doc.Node) (id : SchemaId)
    (fields : List (String × Json)) (hform : f.value.form = .object)
    (hp : f.value.get? "properties" = some (.obj fields)) (hne : fields ≠ [])
    (hd : (doc.after steps).progress.memo.get? f.path = some (.done id)) :
    (doc.after steps).progress.HasProperties doc f.toFragment id
      ((fields.map (·.1)).filter fun key => !Json.isExtensionKey key) := by
  have hledger := (doc.sound_after steps).coherent.toLedger
  obtain ⟨name, parents, kinds, kind, hc⟩ := doc.composedOf_after steps f.holds hform hd
  have hentries : doc.entries (f.slot "properties") =
      ((fields.map (·.1)).filter fun key => !Json.isExtensionKey key).map
        fun key => (key, f.slot "properties" ++ [key]) := entries_of_obj (at?_slot_of_get? f.holds hp)
  have hsection := hc.sections .properties
  generalize hk : kinds .properties = kind? at hsection
  cases hsection with
  | noProperties hno =>
    obtain ⟨field, more, rfl⟩ := List.exists_cons_of_ne_nil hne
    rw [Json.hasEntries_iff.mpr ⟨field, more, hp⟩] at hno
    cases hno
  | properties _ hprops =>
    rw [hentries, List.forall₂_map_left_iff] at hprops
    exact ⟨_, fun qs => hc.isObjectOf_iff hledger hk, hprops.imp fun _ _ => Progress.exists_saysProperty⟩

/-- What an object declares under two keys, one of them written like an extension. -/
def extensionKeyFields : List (String × Json) :=
  [("x-id", .obj [("type", .str "string")]), ("a", .obj [("type", .str "integer")])]

def withExtensionKey : Document where
  root := .obj [("components", .obj [("schemas", .obj [
    ("H", .obj [("type", .str "object"), ("properties", .obj extensionKeyFields)])])])]

def extensionKeyNode : withExtensionKey.Node where
  path := ["components", "schemas", "H"]
  value := .obj [("type", .str "object"), ("properties", .obj extensionKeyFields)]
  holds := by rfl

def extensionKeyProgress : Progress :=
  (withExtensionKey.after [.classify "H" extensionKeyNode]).progress

theorem declared_properties_withExtensionKey :
    extensionKeyNode.value.form = .object ∧
      extensionKeyNode.value.get? "properties" = some (.obj extensionKeyFields) ∧
      extensionKeyProgress.memo.get? extensionKeyNode.path = some (.done ⟨0⟩) ∧
      extensionKeyProgress.HasProperties withExtensionKey extensionKeyNode.toFragment ⟨0⟩ ["a"] := by
  have hform : extensionKeyNode.value.form = .object := by rfl
  have hdone : extensionKeyProgress.memo.get? extensionKeyNode.path = some (.done ⟨0⟩) := by
    decide +kernel
  refine ⟨hform, rfl, hdone, ?_⟩
  exact declared_properties withExtensionKey [.classify "H" extensionKeyNode] extensionKeyNode ⟨0⟩
    extensionKeyFields hform rfl (by simp [extensionKeyFields]) hdone

/-- The object that is built has no property for the key that is written like an extension. -/
theorem extension_key_without_property :
    extensionKeyNode.value.form = .object ∧
      extensionKeyNode.value.get? "properties" = some (.obj extensionKeyFields) ∧
      extensionKeyProgress.memo.get? extensionKeyNode.path = some (.done ⟨0⟩) ∧
      ¬ extensionKeyProgress.HasProperties withExtensionKey extensionKeyNode.toFragment ⟨0⟩
        (extensionKeyFields.map (·.1)) := by
  refine ⟨rfl, rfl, by decide +kernel, ?_⟩
  rintro ⟨ps, hone, hall⟩
  have hrefs : (extensionKeyProgress.catalog.get? ⟨0⟩).map (·.references) = some [⟨1⟩] := by
    decide +kernel
  have hmembers : (extensionKeyProgress.catalog.get? ⟨0⟩).map (·.kind.members) = some [] := by
    decide +kernel
  rcases (hone ps).mpr rfl with hself | ⟨hlist, hk, -, -⟩
  · rw [hself] at hrefs
    have hschemas : ps.map (·.schema) = [⟨1⟩] := Option.some.inj hrefs
    have hlength := congrArg List.length hschemas
    rw [List.length_map, ← hall.length_eq] at hlength
    cases hlength
  · rw [hlist] at hmembers
    cases Option.some.inj hmembers
    exact List.not_mem_nil hk

end Document

end ApiModel

import ApiModel.Proofs.Additions
import ApiModel.Proofs.Merging
import ApiModel.Proofs.Persistence

/-!
# Requests made of parameters

An operation without a request body is given its request by those of its declared parameters that describe
one, `Document.bodyParts`. One that is the body as a whole is the request by itself. Form fields make one
request together: a stream if there is nothing else to send, else an object with a property for each field,
stored in a slot of its own (`FormRequest`). What a field says is read off its node, and which schema it has
off the memory, so that what is said of a request still holds when more was classified (`PartsRequest.mono`).

Nothing is built if a part that counts cannot be, and that depends on the node of the part alone.
-/

namespace ApiModel

namespace Document

/-- Nothing can be made of the node. -/
def Unmade (doc : Document) (f : Fragment) : Prop := ∀ a, ¬ doc.Makes f a

/-- The operation has no request body, or one without content. -/
def LacksBody (doc : Document) (operation : Fragment) : Prop :=
  doc.resolve (operation.slot "requestBody") = .ok none ∨
    ∃ t, doc.resolve (operation.slot "requestBody") = .ok (some t) ∧
      doc.entries (t.slot "content") = []

/-- The first media type that the operation consumes, else the first that its document does. -/
def consumes? (doc : Document) (operation : Json) : Option String :=
  (operation.strings "consumes").head?.or (doc.root.strings "consumes").head?

/-- The declared parameters that describe the request body: one for each name and place, in the order in
which these first come, and of those with one name and place the last. -/
def bodyParts (doc : Document) (item operation : Fragment) : List Fragment :=
  ((doc.parameterKeys item operation).filterMap fun key =>
    (doc.declaredParameters item operation).reverse.find? fun f => f.value.parameterKey = key).filter
      fun f => f.value.isBodyPart

end Document

/-- Whether a parameter is the request body as a whole. -/
def Fragment.isWholeBody (f : Fragment) : Bool := f.value.text? "in" = some "body"

/-- The parts that make the request: the first that is the body as a whole, else all of them. -/
def decisiveParts (parts : List Fragment) : List Fragment :=
  match parts.find? (·.isWholeBody) with
  | some body => [body]
  | none => parts

namespace Progress

/-- The schema at `id` is that of the node which the schema slot of a parameter stands for. -/
def SchemaOf (doc : Document) (p : Progress) (f : Fragment) (id : SchemaId) : Prop :=
  ∃ slot, Classify.parameterSlot? doc f = some slot ∧ p.finished.Shows doc slot id

/-- The schema of the parameter is a stream. -/
def Streams (doc : Document) (p : Progress) (f : Fragment) : Prop :=
  ∃ id, p.SchemaOf doc f id ∧ p.catalog.isStream id

/-- The parameter that the node makes, with the schema of its node. -/
structure Field (doc : Document) (p : Progress) (f : Fragment) (a : Parameter) : Prop where
  makes : doc.Makes f a
  schema : p.SchemaOf doc f a.schema
  stored : (p.catalog.get? a.schema).isSome

/-- The property says of a form field what its node does. -/
structure ShowsField (doc : Document) (p : Progress) (f : Fragment) (q : Property) : Prop where
  name : f.value.text? "name" = some q.serializedName
  schema : p.SchemaOf doc f q.schema
  required : q.required = f.value.flag "required"

/-- The parameter has an object with one property for each field, in their order. -/
structure Gathers (doc : Document) (p : Progress) (fs : List Fragment) (a : Parameter) : Prop where
  location : a.location = .body
  required : a.required = true ↔ ∃ f ∈ fs, f.value.flag "required" = true
  object : ∃ s properties, p.catalog.get? a.schema = some s ∧ s.kind = .object properties none none ∧
    List.Forall₂ (p.ShowsField doc) fs properties ∧ (properties.map (·.serializedName)).Nodup

/-- The request of the fields of a form. -/
structure FormRequest (doc : Document) (p : Progress) (operation : Json) (fs : List Fragment)
    (r : Request) : Prop where
  fields : ∀ f ∈ fs, ∃ a, p.Field doc f a
  consumed : ∀ m, doc.consumes? operation = some m → r.mediaType = m
  multipart : doc.consumes? operation = none → (∃ f ∈ fs, p.Streams doc f) →
    r.mediaType = "multipart/form-data"
  urlencoded : doc.consumes? operation = none → (¬ ∃ f ∈ fs, p.Streams doc f) →
    r.mediaType = "application/x-www-form-urlencoded"
  stream : ∀ id, r.body = .stream id ↔ ∃ f, fs = [f] ∧ p.SchemaOf doc f id ∧ p.catalog.isStream id
  gathered : ∀ a, r.body = .parameter a → p.Gathers doc fs a

/-- The request of a parameter that is the body as a whole. -/
structure BodyRequest (doc : Document) (p : Progress) (operation : Json) (f : Fragment)
    (r : Request) : Prop where
  mediaType : r.mediaType = (doc.consumes? operation).getD "application/json"
  body : ∃ a, p.Field doc f a ∧
    r.body = if p.catalog.isStream a.schema then .stream a.schema else .parameter a

/-- The request that parts make. -/
structure PartsRequest (doc : Document) (p : Progress) (operation : Json) (parts : List Fragment)
    (r? : Option Request) : Prop where
  absent : parts = [] → r? = none
  body : ∀ f, parts.find? (·.isWholeBody) = some f →
    ∃ r, r? = some r ∧ p.BodyRequest doc operation f r
  form : parts ≠ [] → (∀ f ∈ parts, ¬ f.isWholeBody) →
    ∃ r, r? = some r ∧ p.FormRequest doc operation parts r

/-- The body of the request is in a slot that was not there before and that no node took. -/
def TakesNew (p p' : Progress) (r? : Option Request) : Prop :=
  ∀ r a, r? = some r → r.body = .parameter a →
    p.catalog.slots.size ≤ a.schema.index ∧ a.schema ∉ p'.reserved.map (·.2)

variable {doc : Document} {p p' : Progress} {f : Fragment} {id id' : SchemaId} {a : Parameter}
  {operation : Json} {fs parts : List Fragment} {r : Request} {r? : Option Request}

theorem Extends.isStream (h : p.Extends p') (hs : (p.catalog.get? id).isSome) :
    p'.catalog.isStream id = p.catalog.isStream id := by
  obtain ⟨s, hs⟩ := Option.isSome_iff_exists.mp hs
  rw [Catalog.isStream, Catalog.isStream, h.get? hs, hs]

theorem SchemaOf.mono (hx : p.Extends p') (h : p.SchemaOf doc f id) : p'.SchemaOf doc f id := by
  obtain ⟨slot, hslot, t, ht, hid⟩ := h
  exact ⟨slot, hslot, t, ht, hx.entry _ _ hid⟩

theorem SchemaOf.unique (h : p.SchemaOf doc f id) (h' : p.SchemaOf doc f id') : id = id' := by
  obtain ⟨slot, hslot, t, ht, hid⟩ := h
  obtain ⟨_, hslot', t', ht', hid'⟩ := h'
  cases hslot.symm.trans hslot'
  cases ht.symm.trans ht'
  have hdone : p.memo.get? t.path = some (.done id) := hid
  cases hdone.symm.trans hid'
  rfl

theorem Field.mono (hx : p.Extends p') (h : p.Field doc f a) : p'.Field doc f a :=
  ⟨h.makes, h.schema.mono hx, hx.isSome_get? h.stored⟩

/-- Whether a field is a stream is settled when the field is built. -/
theorem Field.stream_iff (hx : p.Extends p') (h : p.Field doc f a) :
    p'.SchemaOf doc f id ∧ p'.catalog.isStream id ↔ id = a.schema ∧ p.catalog.isStream a.schema := by
  constructor
  · rintro ⟨hid, hstream⟩
    cases hid.unique (h.schema.mono hx)
    exact ⟨rfl, (hx.isStream h.stored).symm.trans hstream⟩
  · rintro ⟨rfl, hstream⟩
    exact ⟨h.schema.mono hx, (hx.isStream h.stored).trans hstream⟩

theorem ShowsField.mono (hx : p.Extends p') {q : Property} (h : p.ShowsField doc f q) :
    p'.ShowsField doc f q :=
  ⟨h.name, h.schema.mono hx, h.required⟩

theorem Gathers.mono (hx : p.Extends p') (h : p.Gathers doc fs a) : p'.Gathers doc fs a := by
  obtain ⟨s, properties, hs, hk, hall, hn⟩ := h.object
  exact ⟨h.location, h.required, s, properties, hx.get? hs, hk, hall.imp fun _ _ hq => hq.mono hx, hn⟩

theorem FormRequest.mono (hx : p.Extends p') (h : p.FormRequest doc operation fs r) :
    p'.FormRequest doc operation fs r := by
  have hstream : ∀ f ∈ fs, ∀ id, p'.SchemaOf doc f id ∧ p'.catalog.isStream id ↔
      p.SchemaOf doc f id ∧ p.catalog.isStream id := by
    intro f hf id
    obtain ⟨a, ha⟩ := h.fields f hf
    rw [ha.stream_iff hx, ha.stream_iff (.refl p)]
  have hsome : (∃ f ∈ fs, p'.Streams doc f) ↔ ∃ f ∈ fs, p.Streams doc f :=
    exists_congr fun f => and_congr_right fun hf => exists_congr fun id => hstream f hf id
  refine ⟨fun f hf => ?fields, h.consumed, fun hm hs => h.multipart hm (hsome.mp hs),
    fun hm hs => h.urlencoded hm fun hs' => hs (hsome.mpr hs'), fun id => ?stream,
    fun a ha => (h.gathered a ha).mono hx⟩
  case fields =>
    obtain ⟨a, ha⟩ := h.fields f hf
    exact ⟨a, ha.mono hx⟩
  case stream =>
    rw [h.stream]
    refine exists_congr fun f => and_congr_right fun hf => (hstream f ?_ id).symm
    rw [hf]
    exact List.mem_singleton_self f

theorem BodyRequest.mono (hx : p.Extends p') (h : p.BodyRequest doc operation f r) :
    p'.BodyRequest doc operation f r where
  mediaType := h.mediaType
  body := by
    obtain ⟨a, ha, hbody⟩ := h.body
    exact ⟨a, ha.mono hx, by rw [hbody, hx.isStream ha.stored]⟩

theorem PartsRequest.mono (hx : p.Extends p') (h : p.PartsRequest doc operation parts r?) :
    p'.PartsRequest doc operation parts r? where
  absent := h.absent
  body f hf :=
    let ⟨r, hr, hreq⟩ := h.body f hf
    ⟨r, hr, hreq.mono hx⟩
  form hne hall :=
    let ⟨r, hr, hreq⟩ := h.form hne hall
    ⟨r, hr, hreq.mono hx⟩

theorem TakesNew.of_extends {q : Progress} (hx : q.Extends p) (h : p.TakesNew p' r?) :
    q.TakesNew p' r? := fun r a hr ha =>
  ⟨Nat.le_trans hx.size_le (h r a hr ha).1, (h r a hr ha).2⟩

theorem PartsRequest.nil : p.PartsRequest doc operation [] none where
  absent _ := rfl
  body _ hf := nomatch hf
  form hne := absurd rfl hne

theorem PartsRequest.of_body (hf : parts.find? (·.isWholeBody) = some f)
    (h : p.BodyRequest doc operation f r) : p.PartsRequest doc operation parts (some r) where
  absent hnil := by
    subst hnil
    cases hf
  body g hg := by
    cases hf.symm.trans hg
    exact ⟨r, rfl, h⟩
  form _ hall := absurd (List.find?_some hf) (hall f (List.mem_of_find?_eq_some hf))

theorem PartsRequest.of_form (hne : parts ≠ []) (hf : parts.find? (·.isWholeBody) = none)
    (h : p.FormRequest doc operation parts r) : p.PartsRequest doc operation parts (some r) where
  absent hnil := absurd hnil hne
  body g hg := by cases hf.symm.trans hg
  form _ _ := ⟨r, rfl, h⟩

/-- Where there is a request, the parts that count were built. -/
theorem PartsRequest.makes (h : p.PartsRequest doc operation parts r?) :
    ∀ f ∈ decisiveParts parts, ∃ a, doc.Makes f a := by
  intro f hf
  unfold decisiveParts at hf
  cases hbody : parts.find? (·.isWholeBody) with
  | some body =>
    rw [hbody] at hf
    rw [List.mem_singleton.mp hf]
    obtain ⟨r, -, hr⟩ := h.body body hbody
    obtain ⟨a, ha, -⟩ := hr.body
    exact ⟨a, ha.makes⟩
  | none =>
    rw [hbody] at hf
    obtain ⟨r, -, hr⟩ := h.form (List.ne_nil_of_mem hf) (List.find?_eq_none.mp hbody)
    obtain ⟨a, ha⟩ := hr.fields f hf
    exact ⟨a, ha.makes⟩

end Progress

namespace Document

variable {doc : Document} {f : Fragment} {a : Parameter}

theorem Makes.name (h : doc.Makes f a) : f.value.text? "name" = some a.name := by
  obtain ⟨name, location, _, hfound, -, -, ha⟩ := h
  have hname : a.name = name := congrArg (·.name) ha
  rw [hname]
  exact (Classify.nameAndLocation?_eq_some_iff.mp hfound).1

/-- A part of the body is required as declared. -/
theorem Makes.required (h : doc.Makes f a) (hf : f.value.isBodyPart) :
    a.required = f.value.flag "required" := by
  obtain ⟨name, location, _, hfound, -, -, ha⟩ := h
  obtain ⟨-, -, hlocation⟩ := Classify.nameAndLocation?_eq_some_iff.mp hfound
  have hbody : location = .body := by
    unfold Json.isBodyPart at hf
    rcases (Bool.or_eq_true ..).mp hf with hin | hin
    · rw [of_decide_eq_true hin] at hlocation
      exact (Option.some.inj hlocation).symm
    · rw [of_decide_eq_true hin] at hlocation
      exact (Option.some.inj hlocation).symm
  have hrequired : a.required = (decide (location = .path) || f.value.flag "required") :=
    congrArg (·.required) ha
  rw [hrequired, hbody]
  rfl

theorem isSome_parameterAlone?_iff : (doc.parameterAlone? f).isSome ↔ ∃ a, doc.Makes f a := by
  unfold parameterAlone?
  rw [Option.isSome_map]
  rcases (Classify.ensures_buildParameter_makes .initial f).run' with ⟨a, ha, hmakes⟩ | ⟨hnone, hn⟩
  · exact iff_of_true (by rw [ha]; rfl) ⟨a, hmakes⟩
  · exact iff_of_false (by simp [hnone]) fun ⟨a, ha⟩ => hn a ha

theorem bodyParts_eq (doc : Document) (item operation : Fragment) :
    doc.bodyParts item operation =
      (Classify.mergeParameters (doc.declaredParameters item operation)).filter
        fun f => f.value.isBodyPart := by
  rw [Classify.mergeParameters_eq]
  rfl

theorem isBodyPart_of_mem_bodyParts {item operation : Fragment}
    (h : f ∈ doc.bodyParts item operation) : f.value.isBodyPart :=
  (List.mem_filter.mp h).2

theorem nodup_keys_bodyParts (doc : Document) (item operation : Fragment) :
    ((doc.bodyParts item operation).map (·.value.parameterKey)).Nodup := by
  rw [bodyParts_eq]
  exact (Classify.nodup_keys_mergeParameters _).sublist (List.filter_sublist.map _)

end Document

theorem Fragment.place_of_not_isWholeBody {f : Fragment} (hf : f.value.isBodyPart)
    (hn : ¬ f.isWholeBody) : f.value.text? "in" = some "formData" := by
  unfold Json.isBodyPart at hf
  rcases (Bool.or_eq_true ..).mp hf with hin | hin
  · exact absurd hin hn
  · exact of_decide_eq_true hin

/-- Fields of one place have different names. -/
theorem nodup_names_of_fields {fs : List Fragment} (hk : (fs.map (·.value.parameterKey)).Nodup)
    (hf : ∀ f ∈ fs, f.value.text? "in" = some "formData") :
    (fs.map fun f => (f.value.text? "name").getD "").Nodup := by
  have hkeys : fs.map (·.value.parameterKey) =
      (fs.map fun f => (f.value.text? "name").getD "").map fun name => (name, "formData") := by
    rw [List.map_map]
    exact List.map_congr_left fun f hm => by rw [Json.parameterKey, hf f hm]; rfl
  rw [hkeys] at hk
  exact hk.of_map _

namespace Progress

variable {doc : Document} {q p : Progress} {operation : Json} {fs : List Fragment}
  {fields : List Parameter} {r : Request} {id : SchemaId} {name : String}

theorem streams_iff_any (hx : q.Extends p) (hall : List.Forall₂ (q.Field doc) fs fields) :
    (∃ f ∈ fs, p.Streams doc f) ↔ fields.any fun a => q.catalog.isStream a.schema := by
  rw [List.any_eq_true]
  constructor
  · rintro ⟨f, hf, id, hid⟩
    obtain ⟨a, ha, hfield⟩ := exists_right_of_forall₂ hall hf
    exact ⟨a, ha, ((hfield.stream_iff hx).mp hid).2⟩
  · rintro ⟨a, ha, hstream⟩
    obtain ⟨f, hf, hfield⟩ := exists_left_of_forall₂ hall ha
    exact ⟨f, hf, a.schema, (hfield.stream_iff hx).mpr ⟨rfl, hstream⟩⟩

theorem gathers_of_fields (hx : q.Extends p) (hall : List.Forall₂ (q.Field doc) fs fields)
    (hk : (fs.map (·.value.parameterKey)).Nodup)
    (hf : ∀ f ∈ fs, f.value.text? "in" = some "formData")
    (hs : p.catalog.get? id =
      some (.undescribed name (.object (fields.map Classify.fieldProperty) none none))) :
    p.Gathers doc fs (Classify.formParameter operation fields id) := by
  have hbody : ∀ f ∈ fs, f.value.isBodyPart := fun f hm => by
    rw [Json.isBodyPart, hf f hm]
    decide
  have hshows : List.Forall₂ (p.ShowsField doc) fs (fields.map Classify.fieldProperty) := by
    rw [List.forall₂_map_right_iff]
    refine ((List.forall₂_and_left fs fields).mpr ⟨hbody, hall⟩).imp fun f a hfa => ?_
    exact ⟨hfa.2.makes.name, hfa.2.schema.mono hx, hfa.2.makes.required hfa.1⟩
  refine ⟨rfl, ?required, _, _, hs, rfl, hshows, ?distinct⟩
  case required =>
    have hany : (Classify.formParameter operation fields id).required = fields.any (·.required) := rfl
    rw [hany, List.any_eq_true]
    constructor
    · rintro ⟨a, ha, hreq⟩
      obtain ⟨f, hm, hfield⟩ := exists_left_of_forall₂ hall ha
      exact ⟨f, hm, (hfield.makes.required (hbody f hm)).symm.trans hreq⟩
    · rintro ⟨f, hm, hreq⟩
      obtain ⟨a, ha, hfield⟩ := exists_right_of_forall₂ hall hm
      exact ⟨a, ha, (hfield.makes.required (hbody f hm)).trans hreq⟩
  case distinct =>
    have hnames : List.Forall₂ (· = ·) (fs.map fun f => (f.value.text? "name").getD "")
        ((fields.map Classify.fieldProperty).map (·.serializedName)) := by
      rw [List.forall₂_map_left_iff, List.forall₂_map_right_iff]
      exact hshows.imp fun f q hq => by rw [hq.name]; rfl
    rw [List.forall₂_eq_eq_eq] at hnames
    exact hnames ▸ nodup_names_of_fields hk hf

theorem formRequest_of_fields (hx : q.Extends p) (hall : List.Forall₂ (q.Field doc) fs fields)
    (hm : r.mediaType = (Classify.consumedType? doc operation).getD
      (if fields.any fun a => q.catalog.isStream a.schema then "multipart/form-data"
        else "application/x-www-form-urlencoded"))
    (hstream : ∀ id, r.body = .stream id ↔
      ∃ a, fields = [a] ∧ id = a.schema ∧ q.catalog.isStream a.schema)
    (hgathered : ∀ a, r.body = .parameter a → p.Gathers doc fs a) :
    p.FormRequest doc operation fs r := by
  have hconsumed : Classify.consumedType? doc operation = doc.consumes? operation := List.head?_append
  rw [hconsumed] at hm
  refine ⟨fun f hf => ?fields, fun m hc => ?consumed, fun hc hs => ?multipart,
    fun hc hs => ?urlencoded, fun id => (hstream id).trans ?stream, hgathered⟩
  case fields =>
    obtain ⟨a, -, hfield⟩ := exists_right_of_forall₂ hall hf
    exact ⟨a, hfield.mono hx⟩
  case consumed => rw [hm, hc]; rfl
  case multipart => rw [hm, hc, if_pos ((streams_iff_any hx hall).mp hs)]; rfl
  case urlencoded => rw [hm, hc, if_neg fun ha => hs ((streams_iff_any hx hall).mpr ha)]; rfl
  case stream =>
    constructor
    · rintro ⟨a, rfl, hid⟩
      obtain ⟨f, fs', hfield, hnil, rfl⟩ := List.forall₂_cons_right_iff.mp hall
      cases List.forall₂_nil_right_iff.mp hnil
      exact ⟨f, rfl, (hfield.stream_iff hx).mpr hid⟩
    · rintro ⟨f, rfl, hid⟩
      obtain ⟨a, fields', hfield, hnil, rfl⟩ := List.forall₂_cons_left_iff.mp hall
      cases List.forall₂_nil_left_iff.mp hnil
      exact ⟨a, rfl, (hfield.stream_iff hx).mp hid⟩

/-- A single field that is a stream is the request. -/
theorem formRequest_of_stream {f : Fragment} {a : Parameter} {mediaType : String}
    (ha : q.Field doc f a) (hs : q.catalog.isStream a.schema)
    (hm : mediaType = (Classify.consumedType? doc operation).getD "multipart/form-data") :
    q.FormRequest doc operation [f] ⟨mediaType, .stream a.schema⟩ := by
  refine formRequest_of_fields (.refl q) (.cons ha .nil) ?_ (fun id => ?_) fun b hb => by cases hb
  · rw [List.any_cons, hs]
    exact hm
  · constructor
    · intro hid
      cases hid
      exact ⟨a, rfl, rfl, hs⟩
    · rintro ⟨b, hb, rfl, -⟩
      cases hb
      rfl

end Progress

/-! ### Building the request -/

namespace Classify

open Progress (Coherent)

variable {doc : Document} {stack : List Path} {p q : Progress} {E : Prop} {f : Fragment}
  {parts : List Fragment} {fields : List Parameter} {operation : Json} {mediaType : String}

theorem ensures_buildParameter_schemaOf (h : p.Coherent doc []) (f : Fragment) :
    Ensures doc [] p (buildParameter doc f) (fun a p' => p'.SchemaOf doc f a.schema) True := by
  refine (ensures_buildParameter_shows h f).mono (fun a p' hl ha => ?_) id
  obtain ⟨slot, hslot, t, ht, hid⟩ := ha
  exact ⟨slot, hslot, t, ht, hl.coherent.idOf?_eq_some_iff_done.mp hid⟩

theorem ensures_buildParameter_field (h : p.Coherent doc []) (f : Fragment) :
    Ensures doc [] p (buildParameter doc f) (fun a p' => p'.Field doc f a) (doc.Unmade f) := by
  have hall := ((ensures_buildParameter_makes h f).and (ensures_buildParameter_schemaOf h f)).and
    (ensures_buildParameter h f)
  refine hall.mono (fun a p' _ ha => ?_) fun hE => hE.1.1
  exact ⟨ha.1.1, ha.1.2, ha.2 _ (List.mem_singleton_self _)⟩

theorem ensures_buildFields_field (h : p.Coherent doc []) (fs : List Fragment) :
    Ensures doc [] p (buildFields doc fs) (fun fields p' => List.Forall₂ (p'.Field doc) fs fields)
      (∃ f ∈ fs, doc.Unmade f) := by
  induction fs generalizing p with
  | nil => exact .pure h .nil
  | cons f fs ih =>
    unfold buildFields
    refine ((ensures_buildParameter_field h f).monoError
      (List.exists_mem_cons_of (p := doc.Unmade) fs)).bind fun a p₁ hl₁ ha => ?_
    refine ((ih hl₁.coherent).monoError List.exists_mem_cons_of_exists).bind
      fun fields p₂ hl₂ hfields => ?_
    exact .pure hl₂.coherent (.cons (ha.mono hl₂.toExtends) hfields)

/-- An object for a form takes a slot that is new, and that no node has. -/
theorem ensures_addSchema_fresh (h : p.Coherent doc stack) {s : Schema} (hs : Synthesized s)
    (hk : s.kind ≠ .any) (hr : ∀ r ∈ s.references, p.Fills r) :
    Ensures doc stack p (addSchema s) (fun id p' => p'.catalog.get? id = some s ∧
      p.catalog.slots.size ≤ id.index ∧ id ∉ p'.reserved.map (·.2)) E :=
  ⟨h.leads_add hs hk hr, by simp [Catalog.get?_add], Nat.le_refl _, h.nextId_not_reserved⟩

/-- Other fields are gathered in an object that is stored for the request. -/
theorem ensures_gather (h : p.Coherent doc []) (hx : q.Extends p)
    (hall : List.Forall₂ (p.Field doc) parts fields) (hk : (parts.map (·.value.parameterKey)).Nodup)
    (hf : ∀ f ∈ parts, f.value.text? "in" = some "formData")
    (hm : mediaType = (consumedType? doc operation).getD
      (if fields.any fun a => p.catalog.isStream a.schema then "multipart/form-data"
        else "application/x-www-form-urlencoded"))
    (hsingle : ∀ a, fields = [a] → ¬ p.catalog.isStream a.schema) (name : String) :
    Ensures doc [] p (addSchema (.undescribed (name ++ "Body")
        (.object (fields.map fieldProperty) none none)) >>= fun schema =>
          pure (⟨mediaType, .parameter (formParameter operation fields schema)⟩ : Request))
      (fun r p' => p'.FormRequest doc operation parts r ∧ q.TakesNew p' (some r)) E := by
  have hrefs : ∀ r ∈ (fields.map fieldProperty).map (·.schema), p.Fills r := by
    intro r hr
    rw [List.map_map] at hr
    obtain ⟨a, ha, rfl⟩ := List.mem_map.mp hr
    obtain ⟨f, -, hfield⟩ := exists_left_of_forall₂ hall ha
    exact .inl hfield.stored
  refine (ensures_addSchema_fresh h (.form _ _) (by simp) hrefs).bind fun id p' hl hid =>
    .pure hl.coherent ⟨?request, ?new⟩
  case request =>
    refine Progress.formRequest_of_fields hl.toExtends hall hm (fun id' => ?_) fun a ha => ?_
    · refine iff_of_false (fun hs => by cases hs) ?_
      rintro ⟨a, ha, -, hs⟩
      exact hsingle a ha hs
    · cases ha
      exact Progress.gathers_of_fields hl.toExtends hall hk hf hid.1
  case new =>
    rintro r a hr ha
    cases hr
    cases ha
    exact ⟨Nat.le_trans hx.size_le hid.2.1, hid.2.2⟩

theorem ensures_buildFormRequest_reads (h : p.Coherent doc []) (identity : Identity) (operation : Json)
    (hk : (parts.map (·.value.parameterKey)).Nodup)
    (hf : ∀ f ∈ parts, f.value.text? "in" = some "formData") :
    Ensures doc [] p (buildFormRequest doc identity operation parts)
      (fun r p' => p'.FormRequest doc operation parts r ∧ p.TakesNew p' (some r))
      (∃ f ∈ parts, doc.Unmade f) := by
  unfold buildFormRequest
  refine (ensures_buildFields_field h parts).bind fun fields p₁ hl₁ hfields => ?_
  refine (ensures_get hl₁.coherent).bind fun q p₂ hl₂ hq => ?_
  subst hq
  have hx := (hl₁.trans hl₂).toExtends
  have hall : List.Forall₂ (q.Field doc) parts fields := hfields.imp fun _ _ hfa => hfa.mono hl₂.toExtends
  dsimp only
  split
  · rename_i a
    have hany : ([a].any fun a => q.catalog.isStream a.schema) = q.catalog.isStream a.schema :=
      Bool.or_false _
    split
    · rename_i hs
      obtain ⟨f, _, hfield, hnil, rfl⟩ := List.forall₂_cons_right_iff.mp hall
      cases List.forall₂_nil_right_iff.mp hnil
      have hstream : q.catalog.isStream a.schema := hany.symm.trans hs
      refine .pure hl₂.coherent ⟨Progress.formRequest_of_stream hfield hstream rfl, fun r b hr hb => ?_⟩
      cases hr
      cases hb
    · rename_i hs
      refine ensures_gather hl₂.coherent hx hall hk hf (by rw [if_neg hs]) (fun b hb => ?_)
        identity.joined
      cases hb
      rwa [← hany]
  · rename_i hmany
    exact ensures_gather hl₂.coherent hx hall hk hf rfl (fun a ha => absurd ha (hmany a)) identity.joined

theorem ensures_buildBodyRequest_reads (h : p.Coherent doc []) (operation : Json) (body : Fragment) :
    Ensures doc [] p (buildBodyRequest doc operation body)
      (fun r p' => p'.BodyRequest doc operation body r) (doc.Unmade body) := by
  unfold buildBodyRequest
  refine (ensures_buildParameter_field h body).bind fun a p₁ hl₁ ha => ?_
  refine (ensures_isStream hl₁.coherent a.schema).bind fun b p₂ hl₂ hb => ?_
  have ha := ha.mono hl₂.toExtends
  have hconsumed : consumedType? doc operation = doc.consumes? operation := List.head?_append
  rw [hconsumed]
  cases b with
  | true => exact .pure hl₂.coherent ⟨rfl, a, ha, by rw [← hb]; rfl⟩
  | false => exact .pure hl₂.coherent ⟨rfl, a, ha, by rw [← hb]; rfl⟩

/-- The request of the parts of a body, or the failure of one that counts. -/
theorem ensures_buildPartsRequest_reads (h : p.Coherent doc []) (identity : Identity) (operation : Json)
    (hk : (parts.map (·.value.parameterKey)).Nodup) (hb : ∀ f ∈ parts, f.value.isBodyPart) :
    Ensures doc [] p (buildPartsRequest doc identity operation parts)
      (fun r? p' => p'.PartsRequest doc operation parts r? ∧
        (parts.find? (·.isWholeBody) = none → p.TakesNew p' r?))
      (∃ f ∈ decisiveParts parts, doc.Unmade f) := by
  cases parts with
  | nil =>
    refine .pure h ⟨.nil, fun _ r a hr => ?_⟩
    cases hr
  | cons part parts =>
    unfold buildPartsRequest decisiveParts
    have hfind : (part :: parts).find? (fun f => decide (f.value.text? "in" = some "body")) =
        (part :: parts).find? (·.isWholeBody) := rfl
    dsimp only
    rw [hfind]
    cases hbody : (part :: parts).find? (·.isWholeBody) with
    | some body =>
      dsimp only
      have hx := (ensures_buildBodyRequest_reads h operation body).monoError
        (List.exists_mem_cons_of (p := doc.Unmade) [])
      exact hx.map fun r p' _ hr => ⟨.of_body hbody hr, nofun⟩
    | none =>
      dsimp only
      have hn : ∀ f ∈ part :: parts, ¬ f.isWholeBody := List.find?_eq_none.mp hbody
      have hf : ∀ f ∈ part :: parts, f.value.text? "in" = some "formData" := fun f hm =>
        Fragment.place_of_not_isWholeBody (hb f hm) (hn f hm)
      exact (ensures_buildFormRequest_reads h identity operation hk hf).map fun r p' _ hr =>
        ⟨.of_form (List.cons_ne_nil _ _) hbody hr.1, fun _ => hr.2⟩

/-- Without a request body there is no request yet. -/
theorem buildRequest_of_lacksBody {operation : Fragment} (h : doc.LacksBody operation)
    (identity : Identity) : buildRequest doc identity operation = pure none := by
  unfold buildRequest
  rcases h with hnone | ⟨t, ht, hcontent⟩
  · rw [hnone]
  · rw [ht]
    dsimp only
    rw [hcontent]

theorem lacksBody_of_buildRequest {operation : Fragment} {identity : Identity} {p' : Progress}
    (h : buildRequest doc identity operation p = .ok none p') : doc.LacksBody operation := by
  unfold buildRequest at h
  match hres : doc.resolve (operation.slot "requestBody") with
  | .error r => rw [hres] at h; cases h
  | .ok none => exact .inl hres
  | .ok (some t) =>
    rw [hres] at h
    dsimp only at h
    match hcontent : doc.entries (t.slot "content") with
    | [] => exact .inr ⟨t, hres, hcontent⟩
    | [entry] =>
      rw [hcontent] at h
      obtain ⟨schema?, p₁, -, h⟩ := exists_of_bind_eq_ok h
      cases schema? with
      | none => cases h
      | some schema =>
        obtain ⟨b, p₂, -, h⟩ := exists_of_bind_eq_ok h
        cases b <;> cases h
    | _ :: _ :: _ => rw [hcontent] at h; cases h

theorem ensures_buildOperation_reads (h : p.Coherent doc []) (separator : Char) (groups : Groups)
    (e : Endpoint) (hlacks : doc.LacksBody e.operation) :
    Ensures doc [] p (buildOperation doc separator groups e.method e.key e.item e.operation)
      (fun o p' => p'.PartsRequest doc e.operation.value (doc.bodyParts e.item e.operation)
        o.2.request ∧ ((doc.bodyParts e.item e.operation).find? (·.isWholeBody) = none →
          p.TakesNew p' o.2.request))
      (¬ (groups.find? (e.identity separator).group (e.identity separator).member).isSome →
        ∃ f ∈ decisiveParts (doc.bodyParts e.item e.operation), doc.Unmade f) := by
  unfold buildOperation Endpoint.identity
  dsimp only
  generalize Identity.ofOperation e.method e.key e.operation.value e.operation.pointer separator = found
  obtain ⟨identity, said⟩ := found
  refine (ensures_forM_report h said).bind fun _ p₁ hl₁ _ => ?_
  split
  · rename_i htaken
    exact ensures_reject hl₁.coherent _ _ fun hfree => absurd htaken hfree
  refine (ensures_mergedParameters hl₁.coherent e.item e.operation).bind fun merged p₂ hl₂ hmerged => ?_
  refine (ensures_buildParameters_alone hl₂.coherent _).bind fun parameters p₃ hl₃ _ => ?_
  rw [buildRequest_of_lacksBody hlacks, pure_bind]
  have hparts : (merged.partition fun f => f.value.isBodyPart).1 = doc.bodyParts e.item e.operation := by
    rw [List.partition_eq_filter_filter, Document.bodyParts_eq, hmerged]
  dsimp only
  rw [hparts]
  have hx := ensures_buildPartsRequest_reads hl₃.coherent identity e.operation.value
    (doc.nodup_keys_bodyParts e.item e.operation) fun f hf => Document.isBodyPart_of_mem_bodyParts hf
  refine (hx.monoError fun hE _ => hE).bind fun r? p₄ hl₄ hr => .pure hl₄.coherent ?_
  exact ⟨hr.1, fun hf => (hr.2 hf).of_extends ((hl₁.trans hl₂).trans hl₃).toExtends⟩

end Classify

namespace Draft

variable {doc : Document} {separator : Char} {d last : Draft} {as : List Attempt}

theorem Walk.extends (hw : Walk doc separator d as last) (h : d.Sound doc) :
    d.progress.Extends last.progress := by
  induction hw with
  | done d => exact .refl d.progress
  | @unresolved d _ _ r source _ _ ih =>
    have hl := Classify.leads_reports h.coherent (r.diagnostics source)
    exact hl.toExtends.trans (ih (h.progress hl))
  | attempt e _ ih =>
    exact (h.leads_addOperation separator e.method e.key e.item e.operation).toExtends.trans
      (ih (h.addOperation separator e.method e.key e.item e.operation))

/-- At the end of a walk every operation without a body still has the request of its parts. -/
theorem Walk.reads (hw : Walk doc separator d as last) (h : d.Sound doc) :
    ∀ a ∈ as, ∀ o, a.result = .ok o → doc.LacksBody a.endpoint.operation →
      last.progress.PartsRequest doc a.endpoint.operation.value
        (doc.bodyParts a.endpoint.item a.endpoint.operation) o.2.request := by
  induction hw with
  | done d => exact fun a ha => by cases ha
  | unresolved _ _ _ ih => exact ih (h.progress (Classify.leads_reports h.coherent _))
  | @attempt d last _ e hw ih =>
    have h' := h.addOperation separator e.method e.key e.item e.operation
    refine List.forall_mem_cons.mpr ⟨fun o ho hlacks => ?_, ih h'⟩
    have hx := Classify.ensures_buildOperation_reads h.coherent separator d.groups e hlacks
    have hlast : (d.attempted doc separator e).progress.Extends last.progress := hw.extends h'
    unfold Classify.Ensures at hx
    unfold Draft.attempt at ho
    unfold Draft.attempted Draft.addOperation at hlast
    dsimp only at ho
    split at ho
    · cases ho
    · rename_i hrun
      cases ho
      rw [hrun] at hx hlast
      -- The servers are registered after the operation was built, and leave its schemas as they are.
      have hservers := (h.progress hx.1).leads_registered e.operation.value e.item.value
      exact hx.2.1.mono (hservers.toExtends.trans hlast)

end Draft

namespace Document

/-- The requests of operations without a body are those of their parts. -/
structure GathersForms (doc : Document) : Prop where
  /-- There is no request yet if there is no body with content. -/
  lacking : ∀ (identity : Identity) (operation : Fragment) (p : Progress),
    doc.LacksBody operation ↔ ∃ p', Classify.buildRequest doc identity operation p = .ok none p'
  /-- After any steps, an operation without a body whose identity is free is built exactly if the parts
  that count are, each by itself. -/
  built_iff : ∀ (steps : List (Step doc)) (separator : Char) (groups : Groups) (e : Endpoint),
    doc.LacksBody e.operation →
    ¬ (groups.find? (e.identity separator).group (e.identity separator).member).isSome →
    (((Classify.buildOperation doc separator groups e.method e.key e.item e.operation).run'
        (doc.after steps).progress).isSome ↔
      ∀ f ∈ decisiveParts (doc.bodyParts e.item e.operation), (doc.parameterAlone? f).isSome)
  /-- Its request is that of the parts, and the object of a form is new. -/
  request : ∀ (steps : List (Step doc)) (separator : Char) (groups : Groups) (e : Endpoint)
    (o : String × Operation) (p : Progress), doc.LacksBody e.operation →
    Classify.buildOperation doc separator groups e.method e.key e.item e.operation
      (doc.after steps).progress = .ok o p →
    p.PartsRequest doc e.operation.value (doc.bodyParts e.item e.operation) o.2.request ∧
      ((doc.bodyParts e.item e.operation).find? (·.isWholeBody) = none →
        (doc.after steps).progress.TakesNew p o.2.request)
  /-- So it is with the operations of a model, when all is classified. -/
  modeled : ∀ (options : Options) (m : Model), (doc.model options).result = .ok m →
    m.catalog = (doc.fullDraft options).progress.catalog ∧
    ∀ g ∈ m.groups, ∀ op ∈ g.operations, ∃ e ∈ doc.endpoints,
      e.Describes options.separator (g.name, op) ∧ (doc.LacksBody e.operation →
        (doc.fullDraft options).progress.PartsRequest doc e.operation.value
          (doc.bodyParts e.item e.operation) op.request)

theorem gathers_forms (doc : Document) : doc.GathersForms where
  lacking identity operation p := by
    refine ⟨fun h => ⟨p, ?_⟩, fun ⟨_, h⟩ => Classify.lacksBody_of_buildRequest h⟩
    rw [Classify.buildRequest_of_lacksBody h]
    rfl
  built_iff steps separator groups e hlacks hfree := by
    have hx := Classify.ensures_buildOperation_reads (doc.sound_after steps).coherent separator groups e
      hlacks
    simp only [isSome_parameterAlone?_iff]
    unfold Classify.Ensures at hx
    unfold EStateM.run' EStateM.run
    cases hrun : Classify.buildOperation doc separator groups e.method e.key e.item e.operation
      (doc.after steps).progress with
    | ok o p =>
      rw [hrun] at hx
      exact iff_of_true rfl hx.2.1.makes
    | error r p =>
      rw [hrun] at hx
      obtain ⟨f, hf, hn⟩ := hx.2 hfree
      refine iff_of_false (by simp) fun hall => ?_
      obtain ⟨a, ha⟩ := hall f hf
      exact hn a ha
  request steps separator groups e o p hlacks ho := by
    have hx := Classify.ensures_buildOperation_reads (doc.sound_after steps).coherent separator groups e
      hlacks
    unfold Classify.Ensures at hx
    rw [ho] at hx
    exact hx.2
  modeled options m h := by
    refine ⟨?_, fun g hg op hop => ?_⟩
    · obtain ⟨-, -, rfl⟩ := result_eq_ok_iff.mp h
      rfl
    · obtain ⟨a, ha, hres, hmem, hdescribes⟩ := exists_attempt_of_mem h hg hop
      refine ⟨a.endpoint, hmem, hdescribes, fun hlacks => ?_⟩
      exact ((doc.walk_draft options).reads .initial a ha _ hres hlacks).mono
        (doc.extends_fullDraft options)

/-- A form with a file, a file alone, and a body beside a field. -/
def withForms : Document where
  root := .obj [("paths", .obj [("/notes", .obj [
    ("parameters", .arr [.obj [("name", .str "note"), ("in", .str "formData"), ("type", .str "string")]]),
    ("post", .obj [("operationId", .str "Add"), ("parameters", .arr [
      .obj [("name", .str "scan"), ("in", .str "formData"), ("type", .str "file")],
      .obj [("name", .str "note"), ("in", .str "formData"), ("type", .str "string"),
        ("required", .bool true)]])]),
    ("put", .obj [("operationId", .str "Replace"), ("parameters", .arr [
      .obj [("name", .str "all"), ("in", .str "body"), ("schema", .obj [("type", .str "integer")])]])])]),
    ("/scans", .obj [("post", .obj [("operationId", .str "Scan"), ("parameters", .arr [
      .obj [("name", .str "scan"), ("in", .str "formData"), ("type", .str "file")]])])])])]

example : (withForms.model {}).result.toOption.map (fun m => m.groups.operations.map fun op =>
      (op.name, op.request.map fun r => (r.mediaType, r.parameter?.map (·.required)))) =
    some [("Add", some ("multipart/form-data", some true)),
      ("Replace", some ("application/json", some false)),
      ("Scan", some ("multipart/form-data", none))] := by
  decide +kernel

end Document

end ApiModel

import ApiModel.Proofs.Modeling

/-!
# Sound drafts

`Sound doc d`: nothing is in progress in the draft `d`, its progress is coherent, and every id of a
schema in its operations and its servers is that of a filled slot. Whatever extends the progress keeps
this; placing an operation adds the ids of that operation and of the servers that are new.
-/

namespace ApiModel

namespace Progress

variable {doc : Document} {p : Progress}

theorem Coherent.leads_declare (h : p.Coherent doc []) (name : String) (v : Json) :
    p.Leads doc [] { p with catalog := (ServerVariable.declare name v p.catalog).2 } ∧
      ((ServerVariable.declare name v p.catalog).2.get?
        (ServerVariable.declare name v p.catalog).1.schema).isSome := by
  have htext : p.Leads doc [] { p with
      catalog := p.catalog.add (ServerVariable.textSchema name (v.description
        ServerVariable.missingDescription)) } := by
    refine h.leads_add (.variableText _ _) (fun hk => ?_) fun r hr => ?_
    · rw [ServerVariable.kind_textSchema] at hk; cases hk
    · rw [ServerVariable.references_textSchema] at hr; cases hr
  unfold ServerVariable.declare
  dsimp only
  split
  · exact ⟨htext, by simp [Catalog.get?_add]⟩
  · rename_i values _
    refine ⟨htext.trans ?_, by simp [Catalog.get?_add]⟩
    refine htext.coherent.leads_add (.variableChoice _ _ _ _) (by simp) fun r hr => ?_
    simp only [Schema.references, Schema.Kind.references, List.mem_singleton] at hr
    exact .inl (by simp [hr, Catalog.get?_add])

theorem Coherent.leads_declareAll (h : p.Coherent doc []) (fields : List (String × Json)) :
    p.Leads doc [] { p with catalog := (ServerVariable.declareAll fields p.catalog).2 } ∧
      Fulfils { p with catalog := (ServerVariable.declareAll fields p.catalog).2 }
        ((ServerVariable.declareAll fields p.catalog).1.map (·.schema)) := by
  induction fields generalizing p with
  | nil => exact ⟨h.leads, .nil⟩
  | cons field fields ih =>
    obtain ⟨name, v⟩ := field
    obtain ⟨hl, hs⟩ := h.leads_declare name v
    obtain ⟨hl', hs'⟩ := ih hl.coherent
    refine ⟨hl.trans hl', fun id hid => ?_⟩
    rcases List.mem_cons.mp hid with rfl | hid
    · exact hl'.isSome_get? hs
    · exact hs' id hid

/-- The slots of the variables of all these servers are filled. -/
def FulfilsServers (p : Progress) (servers : Servers) : Prop :=
  ∀ s ∈ servers, p.Fulfils s.schemaIds

theorem Extends.fulfilsServers {p' : Progress} (hx : p.Extends p') {servers : Servers}
    (h : p.FulfilsServers servers) : p'.FulfilsServers servers :=
  fun s hs => hx.fulfils (h s hs)

theorem Coherent.leads_register (h : p.Coherent doc []) {servers : Servers}
    (hs : p.FulfilsServers servers) (url : String) (v : Json) :
    p.Leads doc [] { p with catalog := (servers.register p.catalog url v).2.2 } ∧
      FulfilsServers { p with catalog := (servers.register p.catalog url v).2.2 }
        (servers.register p.catalog url v).2.1 := by
  unfold Servers.register
  split
  · exact ⟨h.leads, hs⟩
  · obtain ⟨hl, hf⟩ := h.leads_declareAll ((v.fields? "variables").getD [])
    refine ⟨hl, fun s hm => ?_⟩
    rcases Array.mem_push.mp hm with hm | rfl
    · exact hl.fulfils (hs s hm)
    · exact hf

theorem Coherent.leads_registerAll (h : p.Coherent doc []) (vs : List Json) (known : List ServerId)
    {servers : Servers} (hs : p.FulfilsServers servers) :
    p.Leads doc [] { p with catalog := (Servers.registerAll vs known servers p.catalog).2.2 } ∧
      FulfilsServers { p with catalog := (Servers.registerAll vs known servers p.catalog).2.2 }
        (Servers.registerAll vs known servers p.catalog).2.1 := by
  induction vs generalizing p known servers with
  | nil => exact ⟨h.leads, hs⟩
  | cons v vs ih =>
    unfold Servers.registerAll
    split
    · exact ih h known hs
    · rename_i url _
      obtain ⟨hl, hs'⟩ := h.leads_register hs url v
      obtain ⟨hl', hs''⟩ := ih hl.coherent _ hs'
      exact ⟨hl.trans hl', hs''⟩

end Progress

/-! ### Drafts -/

namespace Draft

variable {doc : Document} {d : Draft}

/-- The draft after servers were registered, whatever becomes of their ids. -/
def registered (d : Draft) (doc : Document) (operation item : Json) : Draft :=
  let (_, servers, catalog) := d.servers.ofOperation operation item doc.root d.progress.catalog
  { d with progress := { d.progress with catalog }, servers }

structure Sound (doc : Document) (d : Draft) : Prop where
  coherent : d.progress.Coherent doc []
  operations : ∀ op ∈ d.groups.operations, d.progress.Fulfils op.schemaIds
  servers : d.progress.FulfilsServers d.servers

namespace Sound

theorem initial : Sound doc {} where
  coherent := .initial
  operations op h := by cases h
  servers s h := by simp at h

theorem progress (h : d.Sound doc) {p : Progress} (hl : d.progress.Leads doc [] p) :
    Sound doc { d with progress := p } where
  coherent := hl.coherent
  operations op hm := hl.fulfils (h.operations op hm)
  servers := hl.fulfilsServers h.servers

theorem leads_registered (h : d.Sound doc) (operation item : Json) :
    d.progress.Leads doc [] (d.registered doc operation item).progress :=
  (h.coherent.leads_registerAll (Servers.declarations [operation, item, doc.root]) [] h.servers).1

theorem registered (h : d.Sound doc) (operation item : Json) :
    (d.registered doc operation item).Sound doc := by
  obtain ⟨hl, hs⟩ := h.coherent.leads_registerAll (Servers.declarations [operation, item, doc.root])
    [] h.servers
  exact ⟨hl.coherent, fun op hm => hl.fulfils (h.operations op hm), hs⟩

theorem place (h : d.Sound doc) (item operation : Json) (group : String) {op : Operation}
    (hop : d.progress.Fulfils op.schemaIds) : (d.place doc item operation group op).Sound doc := by
  have hr := h.registered operation item
  have hl := h.leads_registered operation item
  refine ⟨hr.coherent, fun o ho => ?_, hr.servers⟩
  unfold Draft.place at ho
  dsimp only at ho
  cases ha : d.groups.add? group
      { op with servers := (d.servers.ofOperation operation item doc.root d.progress.catalog).1 } with
  | none =>
    rw [ha] at ho
    exact hr.operations o ho
  | some gs =>
    rw [ha] at ho
    rcases Groups.mem_operations_add? ha ho with rfl | ho
    · exact hl.fulfils hop
    · exact hr.operations o ho

theorem addOperation (h : d.Sound doc) (separator : Char) (method : Method) (key : String)
    (item operation : Fragment) :
    (Draft.addOperation doc separator method key item operation d).2.Sound doc := by
  have hb := Classify.ensures_buildOperation h.coherent separator d.groups method key item operation
  unfold Classify.Ensures at hb
  unfold Draft.addOperation
  cases hrun : Classify.buildOperation doc separator d.groups method key item operation d.progress with
  | error r p =>
    rw [hrun] at hb
    exact h.progress hb.1
  | ok found p =>
    rw [hrun] at hb
    obtain ⟨group, op⟩ := found
    exact (h.progress hb.1).place item.value operation.value group hb.2

end Sound

end Draft

end ApiModel

import ApiModel.Proofs.Roots
import ApiModel.Proofs.ServerList

/-!
# Servers registered call after call

The servers that a call adds (`Servers.Adds`) stand at the end of the list: one for each URL that is
declared and not in the list, with the variables of the first declaration of that URL. The catalog grows
by the schemas of their variables and by nothing else. So a URL that is known stands for what it stood
for, and a call that is made again, after whatever calls, finds all it asks for.
-/

namespace ApiModel

namespace Catalog

variable {c c' : Catalog} {ids : List SchemaId} {id : SchemaId} {values : List Json}

/-- The schema is stored, and it is any text. -/
def HasText (c : Catalog) (id : SchemaId) : Prop := ∃ s, c.get? id = some s ∧ s.kind = .string .none

/-- The schema is stored, and it is a choice of these values and no others. -/
def HasChoice (c : Catalog) (id : SchemaId) (values : List Json) : Prop :=
  ∃ s choices valueType, c.get? id = some s ∧ s.kind = .choice choices valueType true ∧
    choices.map (·.value) = values ∧ c.HasText valueType

theorem HasText.of_growsBy (h : c.HasText id) (hc : c.GrowsBy ids c') : c'.HasText id :=
  let ⟨s, hs, hkind⟩ := h
  ⟨s, hc.get? hs, hkind⟩

theorem HasChoice.of_growsBy (h : c.HasChoice id values) (hc : c.GrowsBy ids c') :
    c'.HasChoice id values :=
  let ⟨s, choices, valueType, hs, hkind, hvalues, htext⟩ := h
  ⟨s, choices, valueType, hc.get? hs, hkind, hvalues, htext.of_growsBy hc⟩

end Catalog

namespace ServerVariable

variable {c c' : Catalog} {ids : List SchemaId} {declared : String × Json} {v : ServerVariable}

/-- A variable as it is declared: a choice if there is a list of values, else a text. -/
structure Follows (c : Catalog) (declared : String × Json) (v : ServerVariable) : Prop where
  name : v.name = declared.1
  text : declared.2.list? "enum" = none → c.HasText v.schema
  choice : ∀ values, declared.2.list? "enum" = some values → c.HasChoice v.schema values

theorem Follows.of_growsBy (h : v.Follows c declared) (hc : c.GrowsBy ids c') :
    v.Follows c' declared where
  name := h.name
  text hnone := (h.text hnone).of_growsBy hc
  choice values hsome := (h.choice values hsome).of_growsBy hc

theorem follows_declare (name : String) (declared : Json) (c : Catalog) :
    (declare name declared c).1.Follows (declare name declared c).2 (name, declared) := by
  have hadd : ∀ (c : Catalog) s, (c.add s).get? c.nextId = some s := fun c s => by
    rw [Catalog.get?_add, if_pos rfl]
  unfold declare
  cases he : declared.list? "enum" with
  | none => exact ⟨rfl, fun _ => ⟨_, hadd c _, rfl⟩, fun values hsome => by cases he.symm.trans hsome⟩
  | some values =>
    refine ⟨rfl, fun hnone => (by cases he.symm.trans hnone), fun values' hsome => ?_⟩
    obtain rfl := Option.some.inj (he.symm.trans hsome)
    have htext : (c.add (textSchema name (declared.description missingDescription))).HasText c.nextId :=
      ⟨_, hadd c _, rfl⟩
    -- The text has its slot before the choice, which is added without touching it.
    refine ⟨_, _, _, hadd _ _, rfl, ?_, htext.of_growsBy ((Catalog.GrowsBy.refl _ []).add _ [] (by simp))⟩
    rw [List.map_map]
    exact List.map_id _

theorem follows_declareAll (fields : List (String × Json)) (c : Catalog) :
    List.Forall₂ (fun declared v => v.Follows (declareAll fields c).2 declared) fields
      (declareAll fields c).1 := by
  induction fields generalizing c with
  | nil => exact .nil
  | cons field fields ih =>
    obtain ⟨name, declared⟩ := field
    exact .cons ((follows_declare name declared c).of_growsBy (growsBy_declareAll _ fields)) (ih _)

end ServerVariable

/-- A server whose variables are those of a declaration, in their order. -/
def Server.Follows (c : Catalog) (declared : Json) (s : Server) : Prop :=
  List.Forall₂ (fun field v => ServerVariable.Follows c field v)
    ((declared.fields? "variables").getD []) s.urlVariables

theorem Server.follows_declare (url : String) (declared : Json) (c : Catalog) :
    (declare url declared c).1.Follows (declare url declared c).2 declared :=
  ServerVariable.follows_declareAll _ c

theorem Server.Follows.of_growsBy {c c' : Catalog} {ids : List SchemaId} {declared : Json} {s : Server}
    (h : s.Follows c declared) (hc : c.GrowsBy ids c') : s.Follows c' declared :=
  List.Forall₂.imp (fun _ _ hv => hv.of_growsBy hc) h

namespace Servers

variable {servers servers' : Servers} {c c' : Catalog} {v : Json} {vs : List Json} {url : String}
  {added : List Server}

theorem urls_push (servers : Servers) (s : Server) :
    urls (servers.push s) = servers.urls ++ [s.url] := by
  simp [urls]

/-! ### Declarations -/

def declaredUrls (vs : List Json) : List String := vs.filterMap (·.text? "url")

/-- The first declaration of a URL. -/
def firstOf? (vs : List Json) (url : String) : Option Json :=
  vs.find? fun v => v.text? "url" = some url

theorem firstOf?_cons_of_ne (hne : v.text? "url" ≠ some url) :
    firstOf? (v :: vs) url = firstOf? vs url := by
  rw [firstOf?, List.find?_cons_of_neg (by simpa using hne), firstOf?]

theorem register_of_mem (hm : url ∈ servers.urls) (c : Catalog) (v : Json) :
    (servers.register c url v).2 = (servers, c) := by
  unfold register
  cases hf : servers.find? url with
  | none => exact absurd hm (find?_eq_none_iff.mp hf)
  | some i => rfl

theorem register_of_notMem (hnew : url ∉ servers.urls) (c : Catalog) (v : Json) :
    (servers.register c url v).2 =
      (servers.push (Server.declare url v c).1, (Server.declare url v c).2) := by
  unfold register
  rw [find?_eq_none_iff.mpr hnew]

theorem registerAll_cons_of_none (hu : v.text? "url" = none) (vs : List Json) (known : List ServerId)
    (servers : Servers) (c : Catalog) :
    registerAll (v :: vs) known servers c = registerAll vs known servers c := by
  rw [registerAll, hu]

/-- What a declaration registers is there for the next ones; the ids do not matter for what they add. -/
theorem exists_registerAll_cons (hu : v.text? "url" = some url) (vs : List Json)
    (known : List ServerId) (servers : Servers) (c : Catalog) :
    ∃ known', registerAll (v :: vs) known servers c =
      registerAll vs known' (servers.register c url v).2.1 (servers.register c url v).2.2 := by
  rw [registerAll, hu]
  exact ⟨_, rfl⟩

/-- Declarations of known URLs change nothing. -/
theorem registerAll_of_subset (hm : declaredUrls vs ⊆ servers.urls) (known : List ServerId)
    (c : Catalog) : (registerAll vs known servers c).2 = (servers, c) := by
  induction vs generalizing known with
  | nil => rfl
  | cons v vs ih =>
    cases hu : v.text? "url" with
    | none =>
      rw [declaredUrls, List.filterMap_cons_none (by exact hu)] at hm
      rw [registerAll_cons_of_none hu]
      exact ih hm known
    | some url =>
      rw [declaredUrls, List.filterMap_cons_some (by exact hu), List.cons_subset] at hm
      obtain ⟨known', hall⟩ := exists_registerAll_cons hu vs known servers c
      rw [hall, register_of_mem hm.1]
      exact ih hm.2 known'

/-- The declarations added these servers to the list, and their schemas to the catalog. -/
structure Adds (servers : Servers) (c : Catalog) (vs : List Json) (servers' : Servers) (c' : Catalog)
    (added : List Server) : Prop where
  list : servers'.toList = servers.toList ++ added
  urls : added.map (·.url) = fresh id servers.urls (firsts id (declaredUrls vs))
  declared : ∀ s ∈ added, ∃ v, firstOf? vs s.url = some v ∧ s.Follows c' v
  schemas : c.GrowsBy (added.flatMap (·.schemaIds)) c'

namespace Adds

theorem nil (servers : Servers) (c : Catalog) : Adds servers c [] servers c [] where
  list := (List.append_nil _).symm
  urls := rfl
  declared _ hs := by cases hs
  schemas := .refl c _

/-- A server that is added has a URL that was not in the list. -/
theorem url_notMem (h : Adds servers c vs servers' c' added) {s : Server} (hs : s ∈ added) :
    s.url ∉ servers.urls := by
  have hmem := List.mem_map_of_mem (f := (·.url)) hs
  rw [h.urls, fresh, List.mem_filter] at hmem
  simpa using hmem.2

theorem cons_of_none (h : Adds servers c vs servers' c' added) (hu : v.text? "url" = none) :
    Adds servers c (v :: vs) servers' c' added where
  list := h.list
  urls := by rw [h.urls, declaredUrls, declaredUrls, List.filterMap_cons_none (by exact hu)]
  declared s hs := by
    rw [firstOf?_cons_of_ne (by rw [hu]; exact nofun)]
    exact h.declared s hs
  schemas := h.schemas

theorem cons_of_mem (h : Adds servers c vs servers' c' added) (hu : v.text? "url" = some url)
    (hm : url ∈ servers.urls) : Adds servers c (v :: vs) servers' c' added where
  list := h.list
  urls := by
    rw [h.urls, declaredUrls, declaredUrls, List.filterMap_cons_some (by exact hu), fresh_firsts_cons,
      if_pos (by exact hm)]
  declared s hs := by
    have hne : v.text? "url" ≠ some s.url := by
      rw [hu]
      rintro ⟨⟩
      exact h.url_notMem hs hm
    rw [firstOf?_cons_of_ne hne]
    exact h.declared s hs
  schemas := h.schemas

/-- The first declaration of a new URL adds its server before those of the others. -/
theorem cons_of_notMem (hu : v.text? "url" = some url) (hnew : url ∉ servers.urls)
    (h : Adds (servers.push (Server.declare url v c).1) (Server.declare url v c).2 vs servers' c' added) :
    Adds servers c (v :: vs) servers' c' ((Server.declare url v c).1 :: added) where
  list := by rw [h.list, Array.toList_push, List.append_assoc, List.singleton_append]
  urls := by
    have hseen : ∀ u, u ∈ Servers.urls (servers.push (Server.declare url v c).1) ↔
        u ∈ url :: servers.urls := by
      intro u
      rw [urls_push, List.mem_append, List.mem_singleton, List.mem_cons, or_comm]
      rfl
    rw [List.map_cons, h.urls, fresh_congr hseen]
    rw [declaredUrls, declaredUrls, List.filterMap_cons_some (by exact hu), fresh_firsts_cons,
      if_neg (by exact hnew)]
    rfl
  declared s hmem := by
    rcases List.mem_cons.mp hmem with rfl | hs
    · have hfirst : firstOf? (v :: vs) (Server.declare url v c).1.url = some v :=
        List.find?_cons_of_pos (decide_eq_true hu)
      exact ⟨v, hfirst, (Server.follows_declare url v c).of_growsBy h.schemas⟩
    · have hne : v.text? "url" ≠ some s.url := by
        rw [hu]
        rintro ⟨⟩
        refine h.url_notMem hs ?_
        rw [urls_push]
        exact List.mem_append_right _ (List.mem_singleton_self _)
      rw [firstOf?_cons_of_ne hne]
      exact h.declared s hs
  schemas := (ServerVariable.growsBy_declareAll c _).trans h.schemas

end Adds

theorem exists_adds_registerAll (vs : List Json) (known : List ServerId) (servers : Servers)
    (c : Catalog) : ∃ added, Adds servers c vs (registerAll vs known servers c).2.1
      (registerAll vs known servers c).2.2 added := by
  induction vs generalizing known servers c with
  | nil => exact ⟨[], .nil servers c⟩
  | cons v vs ih =>
    cases hu : v.text? "url" with
    | none =>
      obtain ⟨added, h⟩ := ih known servers c
      rw [registerAll_cons_of_none hu]
      exact ⟨added, h.cons_of_none hu⟩
    | some url =>
      obtain ⟨known', hall⟩ := exists_registerAll_cons hu vs known servers c
      rw [hall]
      by_cases hm : url ∈ servers.urls
      · obtain ⟨added, h⟩ := ih known' servers c
        rw [register_of_mem hm]
        exact ⟨added, h.cons_of_mem hu hm⟩
      · rw [register_of_notMem hm]
        obtain ⟨added, h⟩ := ih known' (servers.push (Server.declare url v c).1) (Server.declare url v c).2
        exact ⟨_, h.cons_of_notMem hu hm⟩

/-- There is one list of ids for URLs. -/
theorem eq_of_map_url? {wanted : List String} {found found' : List ServerId} (hn : servers.urls.Nodup)
    (h : found.map servers.url? = wanted.map some) (h' : found'.map servers.url? = wanted.map some) :
    found = found' := by
  induction wanted generalizing found found' with
  | nil => rw [List.map_eq_nil_iff.mp h, List.map_eq_nil_iff.mp h']
  | cons url wanted ih =>
    obtain ⟨i, found, rfl, hi, h⟩ := List.map_eq_cons_iff.mp h
    obtain ⟨j, found', rfl, hj, h'⟩ := List.map_eq_cons_iff.mp h'
    rw [eq_of_url? hn hi hj, ih h h']

end Servers

/-! ### Calls -/

/-- The nodes whose servers an operation may have. -/
structure ServerCall where
  operation : Json
  item : Json
  root : Json

namespace ServerCall

/-- The servers of the innermost node that has any. -/
def declared (call : ServerCall) : List Json :=
  if call.operation.servers ≠ [] then call.operation.servers
  else if call.item.servers ≠ [] then call.item.servers
  else call.root.servers

def urls (call : ServerCall) : List String := Servers.declaredUrls call.declared

end ServerCall

/-- The servers and the schemas of a model in the making. -/
structure Registry where
  servers : Servers := #[]
  catalog : Catalog := .empty

namespace Registry

def register (r : Registry) (call : ServerCall) : List ServerId × Registry :=
  let (ids, servers, catalog) :=
    Servers.ofOperation call.operation call.item call.root r.servers r.catalog
  (ids, ⟨servers, catalog⟩)

/-- The registry after some calls. -/
def after (calls : List ServerCall) (r : Registry) : Registry :=
  calls.foldl (fun r call => (r.register call).2) r

variable {r : Registry}

theorem register_eq (r : Registry) (call : ServerCall) :
    r.register call =
      ((Servers.registerAll call.declared [] r.servers r.catalog).1,
        ⟨(Servers.registerAll call.declared [] r.servers r.catalog).2.1,
          (Servers.registerAll call.declared [] r.servers r.catalog).2.2⟩) := by
  unfold register Servers.ofOperation
  rw [Servers.declarations_eq]
  rfl

theorem exists_adds (r : Registry) (call : ServerCall) :
    ∃ added, Servers.Adds r.servers r.catalog call.declared (r.register call).2.servers
      (r.register call).2.catalog added := by
  rw [register_eq]
  exact Servers.exists_adds_registerAll _ _ _ _

theorem exists_registers (hn : r.servers.urls.Nodup) (call : ServerCall) :
    ∃ found, Servers.Registers r.servers (r.register call).2.servers call.urls found ∧
      (r.register call).1 = firsts id found := by
  rw [register_eq]
  exact Servers.registers_registerAll _ [] .nil hn r.catalog

theorem register_of_subset {call : ServerCall} (hm : call.urls ⊆ r.servers.urls) :
    (r.register call).2 = r := by
  rw [register_eq, Servers.registerAll_of_subset hm]

theorem prefix_after (r : Registry) (calls : List ServerCall) :
    r.servers.toList <+: (r.after calls).servers.toList := by
  induction calls generalizing r with
  | nil => exact List.prefix_rfl
  | cons call calls ih =>
    obtain ⟨added, h⟩ := r.exists_adds call
    exact .trans ⟨added, h.list.symm⟩ (ih _)

theorem nodup_after (hn : r.servers.urls.Nodup) (calls : List ServerCall) :
    (r.after calls).servers.urls.Nodup := by
  induction calls generalizing r with
  | nil => exact hn
  | cons call calls ih =>
    obtain ⟨found, h, -⟩ := exists_registers hn call
    exact ih h.distinct

/-- The ids that a call gets are those of its URLs. -/
theorem map_url?_register (hn : r.servers.urls.Nodup) (call : ServerCall) :
    (r.register call).1.map (r.register call).2.servers.url? = (firsts id call.urls).map some := by
  obtain ⟨found, h, hids⟩ := exists_registers hn call
  rw [hids, h.map_url?]

/-- A call whose URLs are those of these ids gets the ids, and nothing is registered for it. -/
theorem register_of_map_url? (hn : r.servers.urls.Nodup) {call : ServerCall} {ids : List ServerId}
    (h : ids.map r.servers.url? = (firsts id call.urls).map some) : r.register call = (ids, r) := by
  have hknown : call.urls ⊆ r.servers.urls := by
    intro url hurl
    have hmem : some url ∈ (firsts id call.urls).map some :=
      List.mem_map_of_mem (mem_firsts_id.mpr hurl)
    rw [← h] at hmem
    obtain ⟨i, -, hi⟩ := List.mem_map.mp hmem
    rw [Servers.url?_eq] at hi
    exact List.mem_of_getElem? hi
  have hsame : (r.register call).2 = r := register_of_subset hknown
  have hurls := map_url?_register hn call
  rw [hsame] at hurls
  exact Prod.ext (Servers.eq_of_map_url? hn hurls h) hsame

/-- A call that is made again, after any others, gets what it got. -/
theorem register_again (hn : r.servers.urls.Nodup) (call : ServerCall) (later : List ServerCall) :
    ((r.register call).2.after later).register call =
      ((r.register call).1, (r.register call).2.after later) := by
  obtain ⟨found, hreg, -⟩ := exists_registers hn call
  have hprefix := (r.register call).2.prefix_after later
  exact register_of_map_url? (nodup_after hreg.distinct later)
    (Servers.map_url?_of_prefix hprefix (map_url?_register hn call))

/-- What a call does, with the servers that it adds. -/
structure Answers (r : Registry) (call : ServerCall) (added : List Server) : Prop where
  once : (r.register call).1.Nodup
  known : ∀ i ∈ (r.register call).1, i.index < (r.register call).2.servers.size
  /-- The ids are those of the declared URLs. -/
  urls : (r.register call).1.map (r.register call).2.servers.url? = (firsts id call.urls).map some
  distinct : (r.register call).2.servers.urls.Nodup
  adds : Servers.Adds r.servers r.catalog call.declared (r.register call).2.servers
    (r.register call).2.catalog added
  /-- Without a new URL there is nothing to add. -/
  idle : call.urls ⊆ r.servers.urls → (r.register call).2 = r
  again : ∀ later, ((r.register call).2.after later).register call =
    ((r.register call).1, (r.register call).2.after later)

theorem exists_answers (hn : r.servers.urls.Nodup) (call : ServerCall) :
    ∃ added, r.Answers call added := by
  obtain ⟨added, hadds⟩ := r.exists_adds call
  obtain ⟨found, hreg, hids⟩ := exists_registers hn call
  refine ⟨added, ?once, ?known, map_url?_register hn call, hreg.distinct, hadds, register_of_subset,
    register_again hn call⟩
  case once =>
    rw [hids]
    simpa using nodup_map_firsts id found
  case known =>
    intro i hi
    rw [hids, mem_firsts_id] at hi
    refine Servers.mem_ids.mp ?_
    rw [hreg.ids, mem_firsts_id]
    exact List.mem_append_right _ hi

/-- After any calls each URL has one server. One more call gets the ids of the URLs that are declared for
it, and adds the servers of the new ones with the schemas of their variables. -/
theorem registers_each_url_once (c : Catalog) (calls : List ServerCall) :
    let r : Registry := Registry.after calls { catalog := c }
    r.servers.urls.Nodup ∧ ∀ call, ∃ added, r.Answers call added :=
  have hn := nodup_after (r := { catalog := c }) .nil calls
  ⟨hn, exists_answers hn⟩

end Registry

end ApiModel

import ApiModel.Proofs.Listing

/-!
# The servers of a model

`Registers` says what registering declarations does to a list of servers: earlier servers stay, URLs
stay distinct, and the ids in the list are the first of those found. Only an operation that is added
registers servers, so after a walk the list holds the servers of the added operations in the order in
which these first use them (`Walk.serves`).
-/

namespace ApiModel

namespace Servers

variable {servers servers' servers'' : Servers} {i j : ServerId} {url : String}
  {wanted wanted' : List String} {found found' : List ServerId}

def ids (servers : Servers) : List ServerId := (List.range servers.size).map ServerId.mk

def urls (servers : Servers) : List String := servers.toList.map (·.url)

def url? (servers : Servers) (i : ServerId) : Option String := (servers.get? i).map (·.url)

theorem mem_ids : i ∈ servers.ids ↔ i.index < servers.size := by
  simp only [ids, List.mem_map, List.mem_range]
  constructor
  · rintro ⟨n, hn, rfl⟩
    exact hn
  · exact fun hi => ⟨i.index, hi, rfl⟩

theorem nodup_ids (servers : Servers) : servers.ids.Nodup :=
  List.nodup_range.map fun _ _ h => congrArg ServerId.index h

theorem url?_eq (servers : Servers) (i : ServerId) : servers.url? i = servers.urls[i.index]? := by
  simp [url?, urls, get?]

/-- A URL is found if it is that of a server. -/
theorem find?_eq_none_iff : servers.find? url = none ↔ url ∉ servers.urls := by
  rw [find?, Option.map_eq_none_iff, Array.findIdx?_eq_none_iff]
  simp only [urls, List.mem_map, Array.mem_toList_iff, decide_eq_false_iff_not]
  constructor
  · rintro hall ⟨s, hs, rfl⟩
    exact hall s hs rfl
  · exact fun hnew s hs he => hnew ⟨s, hs, he⟩

theorem eq_of_url? (hn : servers.urls.Nodup) (hi : servers.url? i = some url)
    (hj : servers.url? j = some url) : i = j := by
  rw [url?_eq] at hi hj
  obtain ⟨hlt, -⟩ := List.getElem?_eq_some_iff.mp hi
  have hij : i.index = j.index := (List.getElem?_inj hlt hn).mp (hi.trans hj.symm)
  cases i; cases j; exact congrArg _ hij

theorem exists_url? (h : found.map servers.url? = wanted.map some) (hi : i ∈ found) :
    ∃ url, servers.url? i = some url := by
  obtain ⟨url, -, hu⟩ := List.mem_map.mp (h ▸ List.mem_map_of_mem hi)
  exact ⟨url, hu.symm⟩

/-- Servers that are added later leave the URLs of earlier ids as they are. -/
theorem map_url?_of_prefix (hp : servers.toList <+: servers'.toList)
    (h : found.map servers.url? = wanted.map some) : found.map servers'.url? = wanted.map some := by
  obtain ⟨later, hl⟩ : servers.urls <+: servers'.urls := hp.map _
  rw [← h]
  refine List.map_congr_left fun i hi => ?_
  obtain ⟨url, hu⟩ := exists_url? h hi
  rw [hu]
  rw [url?_eq] at hu ⊢
  obtain ⟨hlt, -⟩ := List.getElem?_eq_some_iff.mp hu
  rw [← hl, List.getElem?_append_left hlt, hu]

/-- Registering these URLs in the first list made the second, and found an id for each of them. -/
structure Registers (servers servers' : Servers) (wanted : List String) (found : List ServerId) :
    Prop where
  earlier : servers.toList <+: servers'.toList
  ids : servers'.ids = firsts id (servers.ids ++ found)
  urls : found.map servers'.url? = wanted.map some
  distinct : servers'.urls.Nodup

namespace Registers

theorem refl (hn : servers.urls.Nodup) : Registers servers servers [] [] where
  earlier := List.prefix_rfl
  ids := by rw [List.append_nil, firsts_of_nodup (by simpa using servers.nodup_ids)]
  urls := rfl
  distinct := hn

theorem trans (h : Registers servers servers' wanted found)
    (h' : Registers servers' servers'' wanted' found') :
    Registers servers servers'' (wanted ++ wanted') (found ++ found') where
  earlier := h.earlier.trans h'.earlier
  ids := by rw [h'.ids, h.ids, firsts_firsts_append, List.append_assoc]
  urls := by rw [List.map_append, List.map_append, h'.urls, map_url?_of_prefix h'.earlier h.urls]
  distinct := h'.distinct

/-- Of the ids found, the first ones are those of the first URLs. -/
theorem map_url? (h : Registers servers servers' wanted found) :
    (firsts id found).map servers'.url? = (firsts id wanted).map some := by
  have hfound : ∀ i ∈ found, ∀ j ∈ found, servers'.url? i = servers'.url? j → i = j := by
    intro i hi j _ he
    obtain ⟨url, hu⟩ := exists_url? h.urls hi
    exact eq_of_url? h.distinct hu (he ▸ hu)
  have hwanted : ∀ u ∈ wanted, ∀ w ∈ wanted, some u = some w → u = w :=
    fun _ _ _ _ he => Option.some.inj he
  rw [map_firsts hfound, h.urls, map_firsts hwanted]

end Registers

theorem registers_register (hn : servers.urls.Nodup) (c : Catalog) (url : String) (v : Json) :
    Registers servers (servers.register c url v).2.1 [url] [(servers.register c url v).1] := by
  unfold register
  cases hf : servers.find? url with
  | some i =>
    obtain ⟨n, hn', rfl⟩ := Option.map_eq_some_iff.mp hf
    obtain ⟨hlt, hurl, -⟩ := Array.findIdx?_eq_some_iff_getElem.mp hn'
    have hmem : (⟨n⟩ : ServerId) ∈ servers.ids := mem_ids.mpr hlt
    refine ⟨List.prefix_rfl, ?_, ?_, hn⟩
    · dsimp only
      rw [firsts_append_singleton, List.map_id, id_eq, if_pos hmem,
        firsts_of_nodup (by simpa using servers.nodup_ids)]
    · simpa [url?, get?, hlt] using hurl
  | none =>
    have hnew : url ∉ servers.urls := find?_eq_none_iff.mp hf
    have hurl : (Server.declare url v c).1.url = url := rfl
    have hmem : servers.nextId ∉ servers.ids := by simp [mem_ids, nextId]
    refine ⟨by simp, ?_, ?_, ?_⟩
    · dsimp only
      rw [firsts_append_singleton, List.map_id, id_eq, if_neg hmem,
        firsts_of_nodup (by simpa using servers.nodup_ids)]
      simp [ids, nextId, List.range_succ]
    · simp [url?, get?, nextId, hurl]
    · simp only [urls, Array.toList_push, List.map_append, List.map_singleton, hurl]
      exact List.Nodup.append hn (List.nodup_singleton _) (List.disjoint_singleton.mpr hnew)

/-- All declarations that have a URL are registered, and each id that is found is added once. -/
theorem registers_registerAll (vs : List Json) (known : List ServerId) (hk : known.Nodup)
    (hn : servers.urls.Nodup) (c : Catalog) :
    ∃ found, Registers servers (registerAll vs known servers c).2.1
        (vs.filterMap (·.text? "url")) found ∧
      (registerAll vs known servers c).1 = firsts id (known ++ found) := by
  induction vs generalizing known servers c with
  | nil => exact ⟨[], .refl hn, by rw [List.append_nil, firsts_of_nodup (by simpa using hk)]; rfl⟩
  | cons v vs ih =>
    unfold registerAll
    cases hu : v.text? "url" with
    | none =>
      rw [List.filterMap_cons_none (by exact hu)]
      exact ih known hk hn c
    | some url =>
      rw [List.filterMap_cons_some (by exact hu)]
      dsimp only
      have hreg := registers_register hn c url v
      generalize servers.register c url v = registered at hreg ⊢
      obtain ⟨i, servers', c'⟩ := registered
      have hknown : (if i ∈ known then known else known ++ [i]) = firsts id (known ++ [i]) := by
        rw [firsts_append_singleton, List.map_id, firsts_of_nodup (by simpa using hk)]
        rfl
      have hk' : (firsts id (known ++ [i])).Nodup := by
        simpa using nodup_map_firsts id (known ++ [i])
      rw [hknown]
      obtain ⟨found, hr, hids⟩ := ih _ hk' hreg.distinct c'
      refine ⟨i :: found, hreg.trans hr, ?_⟩
      rw [hids, firsts_firsts_append, List.append_assoc, List.singleton_append]

end Servers

/-! ### The servers of an operation -/

/-- The servers that a node declares. -/
def Json.servers (v : Json) : List Json := (v.list? "servers").getD []

theorem Servers.declarations_cons (v : Json) (nodes : List Json) :
    declarations (v :: nodes) = if v.servers ≠ [] then v.servers else declarations nodes := by
  unfold declarations Json.servers
  cases h : v.list? "servers" with
  | none => simp [h]
  | some items => cases items <;> simp [h]

/-- The last node's servers count if no other node has any. -/
theorem Servers.declarations_eq (operation item root : Json) :
    declarations [operation, item, root] = if operation.servers ≠ [] then operation.servers
      else if item.servers ≠ [] then item.servers else root.servers := by
  rw [declarations_cons, declarations_cons, declarations_cons]
  congr 2
  split
  · rfl
  · rename_i h
    exact (not_not.mp h).symm

namespace Document

/-- The innermost list of servers that is not empty. -/
def serverList (doc : Document) (e : Endpoint) : List Json :=
  if e.operation.value.servers ≠ [] then e.operation.value.servers
  else if e.item.value.servers ≠ [] then e.item.value.servers
  else doc.root.servers

def serverUrls (doc : Document) (e : Endpoint) : List String :=
  (doc.serverList e).filterMap (·.text? "url")

theorem declarations_eq_serverList (doc : Document) (e : Endpoint) :
    Servers.declarations [e.operation.value, e.item.value, doc.root] = doc.serverList e :=
  Servers.declarations_eq _ _ _

end Document

namespace Draft

variable {doc : Document} {separator : Char} {d last : Draft} {e : Endpoint} {as before : List Attempt}

/-- The servers of a draft are those of the operations added by attempts. -/
structure Serves (doc : Document) (as : List Attempt) (d : Draft) : Prop where
  distinct : d.servers.urls.Nodup
  ids : d.servers.ids = firsts id ((addedBy as).flatMap (·.2.servers))
  once : ∀ o ∈ addedBy as, o.2.servers.Nodup
  declared : ∀ a ∈ as, ∀ o, a.result = .ok o →
    o.2.servers.map d.servers.url? = (firsts id (doc.serverUrls a.endpoint)).map some

/-- A rejected operation registers no servers. -/
theorem servers_attempted_of_error {r : Rejection} (h : (d.attempt doc separator e).result = .error r) :
    (d.attempted doc separator e).servers = d.servers := by
  unfold attempt at h
  unfold attempted addOperation
  cases hrun : Classify.buildOperation doc separator d.groups e.method e.key e.item e.operation
    d.progress with
  | error r' p => rfl
  | ok o p =>
    simp only [hrun] at h
    cases h

/-- An operation that is added registers the innermost servers declared for it. -/
theorem registers_attempted {o : String × Operation} (hn : d.servers.urls.Nodup)
    (h : (d.attempt doc separator e).result = .ok o) :
    ∃ found, d.servers.Registers (d.attempted doc separator e).servers (doc.serverUrls e) found ∧
      o.2.servers = firsts id found := by
  unfold attempt at h
  unfold attempted addOperation
  cases hrun : Classify.buildOperation doc separator d.groups e.method e.key e.item e.operation
    d.progress with
  | error r p =>
    simp only [hrun] at h
    cases h
  | ok built p =>
    simp only [hrun] at h
    cases h
    rw [Document.serverUrls, ← doc.declarations_eq_serverList]
    exact Servers.registers_registerAll _ [] .nil hn p.catalog

namespace Serves

theorem initial : Serves doc [] {} where
  distinct := .nil
  ids := rfl
  once _ h := by cases h
  declared _ h := by cases h

theorem attempted_of_error (h : d.Serves doc as) {r : Rejection}
    (hres : (d.attempt doc separator e).result = .error r) :
    (d.attempted doc separator e).Serves doc (as ++ [d.attempt doc separator e]) := by
  have hadded : addedBy (as ++ [d.attempt doc separator e]) = addedBy as := by
    rw [addedBy_append_singleton, Attempt.added?_of_error hres, Option.toList_none, List.append_nil]
  have hservers := servers_attempted_of_error hres
  refine ⟨hservers ▸ h.distinct, by rw [hservers, h.ids, hadded], hadded ▸ h.once, ?_⟩
  intro a ha o ho
  rcases List.mem_append.mp ha with ha | ha
  · rw [hservers]
    exact h.declared a ha o ho
  · rw [List.mem_singleton.mp ha, hres] at ho
    cases ho

theorem attempted_of_ok (h : d.Serves doc as) {o : String × Operation}
    (hres : (d.attempt doc separator e).result = .ok o) :
    (d.attempted doc separator e).Serves doc (as ++ [d.attempt doc separator e]) := by
  have hadded : addedBy (as ++ [d.attempt doc separator e]) = addedBy as ++ [o] := by
    rw [addedBy_append_singleton, Attempt.added?_eq_some_iff.mpr hres, Option.toList_some]
  obtain ⟨found, hreg, ho⟩ := registers_attempted h.distinct hres
  refine ⟨hreg.distinct, ?_, ?_, ?_⟩
  · rw [hreg.ids, h.ids, firsts_firsts_append, hadded, List.flatMap_append, List.flatMap_singleton, ho,
      firsts_append_firsts]
  · intro o' ho'
    rw [hadded] at ho'
    rcases List.mem_append.mp ho' with ho' | ho'
    · exact h.once o' ho'
    · rw [List.mem_singleton.mp ho', ho]
      simpa using nodup_map_firsts id found
  · intro a ha o' ho'
    rcases List.mem_append.mp ha with ha | ha
    · exact Servers.map_url?_of_prefix hreg.earlier (h.declared a ha o' ho')
    · rw [List.mem_singleton.mp ha] at ho' ⊢
      obtain rfl := Except.ok.inj (hres.symm.trans ho')
      rw [ho]
      exact hreg.map_url?

theorem attempted (h : d.Serves doc as) (separator : Char) (e : Endpoint) :
    (d.attempted doc separator e).Serves doc (as ++ [d.attempt doc separator e]) := by
  cases hres : (d.attempt doc separator e).result with
  | error r => exact h.attempted_of_error hres
  | ok o => exact h.attempted_of_ok hres

end Serves

theorem Walk.serves (hw : Walk doc separator d as last) (h : d.Serves doc before) :
    last.Serves doc (before ++ as) := by
  induction hw generalizing before with
  | done d => simpa using h
  | unresolved _ _ _ ih => exact ih ⟨h.distinct, h.ids, h.once, h.declared⟩
  | attempt e _ ih =>
    rw [List.append_cons]
    exact ih (h.attempted separator e)

end Draft

namespace Document

/-- What the servers of a model say of its document and its operations. -/
structure ListsServers (doc : Document) (options : Options) (m : Model) : Prop where
  distinct : (m.servers.toList.map (·.url)).Nodup
  /-- The ids of an operation are those of servers, each once. -/
  known : ∀ op ∈ m.groups.operations, op.servers.Nodup ∧ ∀ i ∈ op.servers, (m.servers.get? i).isSome
  used : ∀ n < m.servers.size, ∃ op ∈ m.groups.operations, ⟨n⟩ ∈ op.servers
  /-- The operations of the groups are those that were added. -/
  added : ∀ o, o ∈ addedBy (doc.attempts options) ↔ ∃ g ∈ m.groups, g.name = o.1 ∧ o.2 ∈ g.operations
  /-- The servers are in the order in which the operations, as they were added, first use them. -/
  order : (List.range m.servers.size).map ServerId.mk =
    firsts id ((addedBy (doc.attempts options)).flatMap (·.2.servers))
  /-- An operation has the URLs of the innermost servers that are declared for its endpoint. -/
  declared : ∀ a ∈ doc.attempts options, ∀ o, a.result = .ok o →
    (m.serversOf o.2).map (·.url) = firsts id (doc.serverUrls a.endpoint)

theorem mem_added_iff {doc : Document} {options : Options} {m : Model}
    (h : (doc.model options).result = .ok m) {o : String × Operation} :
    o ∈ addedBy (doc.attempts options) ↔ ∃ g ∈ m.groups, g.name = o.1 ∧ o.2 ∈ g.operations := by
  rw [groups_of_model h]
  constructor
  · intro ho
    exact ⟨⟨o.1, _⟩, Groups.mem_gather.mpr ⟨Groups.mem_namesOf.mpr ⟨o.2, ho⟩, rfl⟩, rfl,
      Groups.mem_operationsOf.mpr ho⟩
  · rintro ⟨g, hg, hname, hop⟩
    rw [(Groups.mem_gather.mp hg).2, hname] at hop
    exact Groups.mem_operationsOf.mp hop

theorem mem_operations_iff {doc : Document} {options : Options} {m : Model}
    (h : (doc.model options).result = .ok m) {op : Operation} :
    op ∈ m.groups.operations ↔ ∃ o ∈ addedBy (doc.attempts options), o.2 = op := by
  rw [Groups.operations, List.mem_flatMap]
  constructor
  · rintro ⟨g, hg, hop⟩
    exact ⟨(g.name, op), (mem_added_iff h).mpr ⟨g, hg, rfl, hop⟩, rfl⟩
  · rintro ⟨o, ho, rfl⟩
    obtain ⟨g, hg, -, hop⟩ := (mem_added_iff h).mp ho
    exact ⟨g, hg, hop⟩

/-- The servers of a model are those that its operations use. -/
theorem servers_list_declared (doc : Document) (options : Options) (m : Model)
    (h : (doc.model options).result = .ok m) : doc.ListsServers options m := by
  have hs : (doc.draft options).Serves doc (doc.attempts options) :=
    (doc.walk_draft options).serves .initial
  have hm : m.servers = (doc.draft options).servers := by
    obtain ⟨-, -, rfl⟩ := result_eq_ok_iff.mp h
    exact doc.servers_fullDraft options
  have hids : ∀ i, i ∈ m.servers.ids ↔ ∃ o ∈ addedBy (doc.attempts options), i ∈ o.2.servers := by
    intro i
    rw [hm, hs.ids, mem_firsts_id, List.mem_flatMap]
  constructor
  case distinct => rw [hm]; exact hs.distinct
  case known =>
    intro op hop
    obtain ⟨o, ho, rfl⟩ := (mem_operations_iff h).mp hop
    refine ⟨hs.once o ho, fun i hi => ?_⟩
    have hlt : i.index < m.servers.size := Servers.mem_ids.mp ((hids i).mpr ⟨o, ho, hi⟩)
    simp [Servers.get?, hlt]
  case used =>
    intro n hn
    obtain ⟨o, ho, hi⟩ := (hids ⟨n⟩).mp (Servers.mem_ids.mpr hn)
    exact ⟨o.2, (mem_operations_iff h).mpr ⟨o, ho, rfl⟩, hi⟩
  case added => exact fun _ => mem_added_iff h
  case order => rw [hm]; exact hs.ids
  case declared =>
    intro a ha o ho
    have hurls := hs.declared a ha o ho
    rw [← hm] at hurls
    have hof : (m.serversOf o.2).map (·.url) = (o.2.servers.map m.servers.url?).filterMap id := by
      rw [List.filterMap_map]
      exact List.map_filterMap
    rw [hof, hurls, List.filterMap_map]
    exact List.filterMap_some

/-- An operation with servers of its own, one of them without a URL and one twice; an operation that
has those of its path; one with an empty list; and one with the id of an earlier one. -/
def withServers : Document where
  root := .obj [
    ("servers", .arr [.obj [("url", .str "/root")]]),
    ("paths", .obj [
      ("/a", .obj [
        ("servers", .arr [.obj [("url", .str "/own")], .obj [("url", .str "/path")]]),
        ("get", .obj [("operationId", .str "A_Get"), ("servers", .arr [.obj [("url", .str "/own")],
          .obj [("description", .str "no url")], .obj [("url", .str "/more")],
          .obj [("url", .str "/own")]])]),
        ("post", .obj [("operationId", .str "A_Post")])]),
      ("/b", .obj [
        ("get", .obj [("operationId", .str "B_Get"), ("servers", .arr [])]),
        ("post", .obj [("operationId", .str "B_Get"), ("servers", .arr [
          .obj [("url", .str "/dropped")]])])])])]

theorem servers_list_declared_withServers :
    let m := withServers.modelOf (withServers.fullDraft {})
    (withServers.model {}).result = .ok m ∧
      m.servers.toList.map (·.url) = ["/own", "/more", "/path", "/root"] ∧
      m.groups.operations.map (fun op => (op.name, op.servers.map (·.index))) =
        [("Get", [0, 1]), ("Post", [0, 2]), ("Get", [3])] ∧
      withServers.ListsServers {} m := by
  intro m
  have hrun : (withServers.model {}).result = .ok m :=
    result_eq_ok_iff.mpr ⟨by decide +kernel, by decide +kernel, rfl⟩
  exact ⟨hrun, by decide +kernel, by decide +kernel, servers_list_declared withServers {} m hrun⟩

end Document

end ApiModel

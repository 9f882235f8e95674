import ApiModel.Catalog
import ApiModel.Json.Printer

/-!
# Servers

The servers of all operations are in one list, each URL once: the first declaration of a URL counts
and later ones refer to it. A server is found by its URL (`Servers.find?`) and known by its place.

The variables of a URL have schemas: a text, or a choice if the declaration lists values.
-/

namespace ApiModel

/-- The place of a server in the list. -/
structure ServerId where
  index : Nat
deriving DecidableEq

structure ServerVariable where
  name : String
  description : String
  schema : SchemaId
  defaultValue : Option String

structure Server where
  url : String
  description : String
  urlVariables : List ServerVariable

namespace ServerVariable

def missingDescription : String := "MISSING-SERVER_VARIABLE-DESCRIPTION"

def textSchema (name description : String) : Schema :=
  { name := "ServerVariable/" ++ name, description, kind := .string .none }

theorem kind_textSchema (name description : String) :
    (textSchema name description).kind = .string .none := rfl

theorem references_textSchema (name description : String) :
    (textSchema name description).references = [] := rfl

/-- The text of a default; null is none. -/
def defaultText? : Option Json → Option String
  | none | some .null => none
  | some v => some v.label

/-- Reads a variable and takes slots for its schemas. -/
def declare (name : String) (v : Json) (c : Catalog) : ServerVariable × Catalog :=
  let description := v.description missingDescription
  let text := textSchema name description
  let defaultValue := defaultText? (v.get? "default")
  match v.list? "enum" with
  | none => (⟨name, description, c.nextId, defaultValue⟩, c.add text)
  | some values =>
    let typed := c.add text
    let choices := values.map fun value => (⟨value.label, value, none⟩ : Choice)
    let choice : Schema := { name, description, kind := .choice choices c.nextId true }
    (⟨name, description, typed.nextId, defaultValue⟩, typed.add choice)

def declareAll : List (String × Json) → Catalog → List ServerVariable × Catalog
  | [], c => ([], c)
  | (name, v) :: rest, c =>
    let (first, c) := declare name v c
    let (others, c) := declareAll rest c
    (first :: others, c)

end ServerVariable

def Server.missingDescription : String := "MISSING-SERVER-DESCRIPTION"

/-- Reads a server and takes slots for the schemas of its variables. -/
def Server.declare (url : String) (v : Json) (c : Catalog) : Server × Catalog :=
  let (urlVariables, c) := ServerVariable.declareAll ((v.fields? "variables").getD []) c
  (⟨url, v.description missingDescription, urlVariables⟩, c)

abbrev Servers := Array Server

namespace Servers

/-- The server of a URL. -/
def find? (servers : Servers) (url : String) : Option ServerId :=
  (servers.findIdx? fun s => s.url = url).map ServerId.mk

/-- The id of the server that will be added next. -/
def nextId (servers : Servers) : ServerId := ⟨servers.size⟩

def get? (servers : Servers) (id : ServerId) : Option Server := servers[id.index]?

/-- The server of a URL, added by its declaration if it is new. -/
def register (servers : Servers) (c : Catalog) (url : String) (v : Json) :
    ServerId × Servers × Catalog :=
  match servers.find? url with
  | some id => (id, servers, c)
  | none =>
    let (server, c) := Server.declare url v c
    (servers.nextId, servers.push server, c)

/-- Registers declarations in their order; those without a URL are passed over, and `known` are the
ids found so far, each once. -/
def registerAll : List Json → List ServerId → Servers → Catalog → List ServerId × Servers × Catalog
  | [], known, servers, c => (known, servers, c)
  | v :: rest, known, servers, c =>
    match v.text? "url" with
    | none => registerAll rest known servers c
    | some url =>
      let (id, servers, c) := servers.register c url v
      registerAll rest (if id ∈ known then known else known ++ [id]) servers c

/-- The declarations that count: those of the first node that has any. -/
def declarations (nodes : List Json) : List Json :=
  ((nodes.filterMap fun v => v.list? "servers").find? fun items => !items.isEmpty).getD []

/-- The servers of an operation: its own, else those of its path, else those of the document. -/
def ofOperation (operation item root : Json) (servers : Servers) (c : Catalog) :
    List ServerId × Servers × Catalog :=
  registerAll (declarations [operation, item, root]) [] servers c

end Servers

end ApiModel

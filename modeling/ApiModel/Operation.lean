import ApiModel.Schema.Basic
import ApiModel.Server

/-!
# Operations

An operation is a method on a path, with parameters and at most one request body. Operations are
grouped by the first part of their ids.
-/

namespace ApiModel

inductive Method
  | delete
  | get
  | head
  | options
  | patch
  | post
  | put
  | trace
deriving DecidableEq

namespace Method

/-- All methods, in the order in which the operations of a path are looked at. -/
def all : List Method := [.delete, .get, .head, .options, .patch, .post, .put, .trace]

def text : Method → String
  | .delete => "delete"
  | .get => "get"
  | .head => "head"
  | .options => "options"
  | .patch => "patch"
  | .post => "post"
  | .put => "put"
  | .trace => "trace"

theorem mem_all (m : Method) : m ∈ all := by cases m <;> decide

end Method

/-- Where a parameter travels. -/
inductive Location
  | path
  | query
  | header
  | cookie
  | body
deriving DecidableEq

namespace Location

def parse? : String → Option Location
  | "path" => some .path
  | "query" => some .query
  | "header" => some .header
  | "cookie" => some .cookie
  | "body" | "formData" => some .body
  | _ => none

def text : Location → String
  | .path => "path"
  | .query => "query"
  | .header => "header"
  | .cookie => "cookie"
  | .body => "body"

theorem text_of_parse? {text : String} {location : Location}
    (h : parse? text = some location) (hn : text ≠ "body" ∧ text ≠ "formData") :
    location.text = text ∧ location ≠ .body := by
  unfold parse? at h
  split at h <;> cases h
  · exact ⟨rfl, by decide⟩
  · exact ⟨rfl, by decide⟩
  · exact ⟨rfl, by decide⟩
  · exact ⟨rfl, by decide⟩
  · exact absurd rfl hn.1
  · exact absurd rfl hn.2

end Location

/-- How the value of a parameter is written. -/
inductive Style
  | simple
  | form
  | label
  | matrix
  | spaceDelimited
  | pipeDelimited
  | deepObject
  | json
deriving DecidableEq

namespace Style

/-- The style of a keyword value. -/
def parse? : String → Option Style
  | "simple" => some .simple
  | "form" => some .form
  | "label" => some .label
  | "matrix" => some .matrix
  | "spaceDelimited" => some .spaceDelimited
  | "pipeDelimited" => some .pipeDelimited
  | "deepObject" => some .deepObject
  | _ => none

def text : Style → String
  | .simple => "simple"
  | .form => "form"
  | .label => "label"
  | .matrix => "matrix"
  | .spaceDelimited => "spaceDelimited"
  | .pipeDelimited => "pipeDelimited"
  | .deepObject => "deepObject"
  | .json => "json"

end Style

/-- Who gives a parameter its value: the client once, or the caller of the method each time. -/
inductive Supplier
  | client
  | method
deriving DecidableEq

def Supplier.text : Supplier → String
  | .client => "client"
  | .method => "method"

structure Parameter where
  name : String
  description : String
  schema : SchemaId
  location : Location
  style : Style
  explode : Bool
  required : Bool
  supplier : Supplier
  extensions : List (String × Json)

/-- What a request carries: a value, passed as a parameter, or bytes. -/
inductive Body
  | parameter (p : Parameter)
  | stream (schema : SchemaId)

structure Request where
  mediaType : String
  body : Body

namespace Request

def isStream (r : Request) : Bool :=
  match r.body with
  | .stream _ => true
  | .parameter _ => false

def parameter? (r : Request) : Option Parameter :=
  match r.body with
  | .parameter p => some p
  | .stream _ => none

end Request

structure Operation where
  name : String
  description : String
  summary : Option String := none
  deprecated : Bool := false
  tags : List String := []
  method : Method
  path : String
  servers : List ServerId := []
  parameters : List Parameter := []
  request : Option Request := none
  extensions : List (String × Json) := []

namespace Operation

/-- The declared parameters, then that of the body. -/
def allParameters (op : Operation) : List Parameter :=
  op.parameters ++ (op.request.bind (·.parameter?)).toList

def findParameter? (op : Operation) (name : String) : Option Parameter :=
  op.allParameters.find? fun p => p.name = name

end Operation

structure Group where
  name : String
  operations : List Operation

namespace Group

def find? (g : Group) (member : String) : Option Operation :=
  g.operations.find? fun op => op.name = member

end Group

abbrev Groups := List Group

namespace Groups

/-- The group of a name, which is empty if there is none yet. -/
def group (gs : Groups) (name : String) : Group :=
  (gs.find? fun g => g.name = name).getD ⟨name, []⟩

def find? (gs : Groups) (group member : String) : Option Operation :=
  (gs.group group).find? member

/-- Puts a group in the place of the one of its name, or at the end. -/
def put (g : Group) : Groups → Groups
  | [] => [g]
  | g' :: gs => if g'.name = g.name then g :: gs else g' :: put g gs

/-- Makes sure that there is a group of a name. -/
def ensure (gs : Groups) (name : String) : Groups := put (gs.group name) gs

/-- Adds an operation at the end of a group; nothing if its name is taken there. -/
def add? (gs : Groups) (group : String) (op : Operation) : Option Groups :=
  let g := gs.group group
  if (g.find? op.name).isSome then none
  else some (put ⟨g.name, g.operations ++ [op]⟩ gs)

/-- All operations, group by group. -/
def operations (gs : Groups) : List Operation := gs.flatMap (·.operations)

variable {gs gs' : Groups} {o op : Operation}

theorem mem_operations_group {name : String} (h : o ∈ (gs.group name).operations) :
    o ∈ gs.operations := by
  unfold group at h
  cases hf : List.find? (fun g : Group => g.name = name) gs with
  | none => rw [hf] at h; cases h
  | some g =>
    rw [hf] at h
    exact List.mem_flatMap.mpr ⟨g, List.mem_of_find?_eq_some hf, h⟩

theorem mem_operations_put {g : Group} (h : o ∈ (put g gs).operations) :
    o ∈ g.operations ∨ o ∈ gs.operations := by
  induction gs with
  | nil => exact .inl (by simpa [put, operations] using h)
  | cons g' gs ih =>
    simp only [operations, List.flatMap_cons, List.mem_append] at ih ⊢
    unfold put at h
    split at h
    · simp only [operations, List.flatMap_cons, List.mem_append] at h
      exact h.imp_right .inr
    · simp only [operations, List.flatMap_cons, List.mem_append] at h
      rcases h with h | h
      · exact .inr (.inl h)
      · exact (ih h).imp_right .inr

theorem exists_add? {name : String} (h : ¬ (gs.find? name op.name).isSome) :
    ∃ gs', gs.add? name op = some gs' := by
  unfold add?
  exact ⟨_, if_neg h⟩

theorem mem_operations_add? {name : String} (ha : gs.add? name op = some gs')
    (h : o ∈ gs'.operations) : o = op ∨ o ∈ gs.operations := by
  unfold add? at ha
  dsimp only at ha
  split at ha
  · cases ha
  · cases ha
    rcases mem_operations_put h with h | h
    · rcases List.mem_append.mp h with h | h
      · exact .inr (mem_operations_group h)
      · exact .inl (List.mem_singleton.mp h)
    · exact .inr h

end Groups

end ApiModel

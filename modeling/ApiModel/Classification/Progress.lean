import ApiModel.Catalog
import ApiModel.Document
import ApiModel.Memo

/-!
# Progress of a classification

What is kept while schemas are classified: the catalog, what became of each node, the schema that
stands for any value once one is needed, and what was reported. `Classify` is a step that may reject
its node; what it did until then is kept.
-/

namespace ApiModel

structure Progress where
  catalog : Catalog := {}
  memo : Memo Path SchemaId := {}
  anyId : Option SchemaId := none
  diagnostics : Array Diagnostic := #[]
  /-- The nodes for which a slot was taken, each with its slot, the latest first. A failure keeps its
  slot here, while the memory forgets it. -/
  reserved : List (Path × SchemaId) := []
  /-- The slots that were filled, each with what stood there before: nothing if there was no such
  slot. -/
  filled : List (SchemaId × Option (Option Schema)) := []

namespace Progress

def report (p : Progress) (d : Diagnostic) : Progress :=
  { p with diagnostics := p.diagnostics.push d }

/-- Takes a slot for a node whose schema is not known yet. -/
def begin (p : Progress) (path : Path) : Progress :=
  { p with
    catalog := p.catalog.reserve
    memo := p.memo.begin path p.catalog.nextId
    reserved := (path, p.catalog.nextId) :: p.reserved }

/-- Puts the schema of a node into its slot. -/
def complete (p : Progress) (path : Path) (id : SchemaId) (s : Schema) : Progress :=
  { p with
    catalog := p.catalog.fill id s
    memo := p.memo.complete path id
    filled := (id, p.catalog.slots[id.index]?) :: p.filled }

/-- Gives a node up, and with it all that was classified since and depends on it. -/
def abandon (p : Progress) (path : Path) (id : SchemaId) : Progress :=
  let (withdrawn, catalog) := p.catalog.withdraw id
  { p with catalog, memo := (p.memo.fail path).failValues withdrawn }

theorem foldl_report (p : Progress) (ds : List Diagnostic) :
    ds.foldl report p = { p with diagnostics := p.diagnostics ++ ds.toArray } := by
  induction ds generalizing p with
  | nil => simp
  | cons d ds ih => simp [ih, report]

theorem diagnostics_foldl_report (p : Progress) (ds : List Diagnostic) :
    (ds.foldl report p).diagnostics.toList = p.diagnostics.toList ++ ds := by
  simp [foldl_report]

theorem memo_foldl_report (p : Progress) (ds : List Diagnostic) :
    (ds.foldl report p).memo = p.memo := by
  rw [foldl_report]

theorem catalog_foldl_report (p : Progress) (ds : List Diagnostic) :
    (ds.foldl report p).catalog = p.catalog := by
  rw [foldl_report]

theorem reserved_foldl_report (p : Progress) (ds : List Diagnostic) :
    (ds.foldl report p).reserved = p.reserved := by
  rw [foldl_report]

end Progress

abbrev Classify := EStateM Rejection Progress

namespace Classify

def report (d : Diagnostic) : Classify Unit := modify (·.report d)

/-- Reports a cause and stops with it. -/
def reject {α : Type} (r : Rejection) (source : String) : Classify α := fun p =>
  .error r ((r.diagnostics source).foldl Progress.report p)

/-- Takes a slot for a schema. -/
def addSchema (s : Schema) : Classify SchemaId := fun p =>
  .ok p.catalog.nextId { p with catalog := p.catalog.add s }

/-- The one schema of any value. -/
def anySchema : Classify SchemaId := fun p =>
  match p.anyId with
  | some id => .ok id p
  | none =>
    let id := p.catalog.nextId
    .ok id { p with catalog := p.catalog.add Schema.anyValue, anyId := some id }

/-- Builds the schema of a node in a slot of its own, or gives the node up. -/
def inSlot (path : Path) (build : Classify Schema) : Classify SchemaId := fun p =>
  let id := p.catalog.nextId
  match build (p.begin path) with
  | .ok s p => .ok id (p.complete path id s)
  | .error r p => .error r (p.abandon path id)

variable {α β : Type} {x : Classify α} {f : α → Classify β} {p q : Progress}

theorem run_bind_ok {a : α} (h : x p = .ok a q) : (x >>= f) p = f a q := by
  simp only [Bind.bind, EStateM.bind, h]

theorem run_bind_error {r : Rejection} (h : x p = .error r q) : (x >>= f) p = .error r q := by
  simp only [Bind.bind, EStateM.bind, h]

theorem exists_of_bind_eq_ok {b : β} (h : (x >>= f) p = .ok b q) :
    ∃ a p', x p = .ok a p' ∧ f a p' = .ok b q := by
  cases hrun : x p with
  | ok a p' => rw [run_bind_ok hrun] at h; exact ⟨a, p', rfl, h⟩
  | error r p' => rw [run_bind_error hrun] at h; cases h

end Classify

end ApiModel

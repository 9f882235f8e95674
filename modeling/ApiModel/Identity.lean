import ApiModel.Diagnostic
import ApiModel.Json.Keyword
import ApiModel.Operation
import ApiModel.Text.Split

/-!
# The identity of an operation

An operation id is a group and a member, divided at the first separator; without a separator the
group is empty. An operation without an id is known by its tags, and without tags by a name that
stands for all such operations.
-/

namespace ApiModel

structure Identity where
  group : String
  member : String
deriving DecidableEq

namespace Identity

/-- The member of operations that have neither id nor tags. -/
def unknownMember : String := "unknown-method"

def split (id : String) (separator : Char) : Identity :=
  match Split.once? separator id.toList with
  | some (group, member) => ⟨String.ofList group, String.ofList member⟩
  | none => ⟨"", id⟩

/-- The id that an operation declares, if it is not empty. -/
def declared? (v : Json) : Option String := (v.text? "operationId").filter (· ≠ "")

/-- The id that one tag is, or the first two make. -/
def ofTags? (separator : Char) : List String → Option String
  | [] => none
  | [tag] => some tag
  | first :: second :: _ => some (first ++ String.ofList [separator] ++ second)

/-- The identity of an operation, and what is to be said about it: a warning if it is made of tags,
an error if it stands for none. -/
def ofOperation (method : Method) (path : String) (v : Json) (source : String) (separator : Char) :
    Identity × List Diagnostic :=
  match declared? v with
  | some id => (split id separator, [])
  | none =>
    let place := s!"'operationId' for '{method.text}' operation on path '{path}'"
    match ofTags? separator (v.strings "tags") with
    | some id =>
      (split id separator, [⟨.warning, .interpretations, "Generating " ++ place, source⟩])
    | none =>
      (split unknownMember separator, [⟨.error, .interpretations, "NEED " ++ place, source⟩])

theorem code_of_mem_said {method : Method} {path : String} {v : Json} {source : String}
    {separator : Char} {d : Diagnostic} (h : d ∈ (ofOperation method path v source separator).2) :
    d.code = .interpretations := by
  unfold ofOperation at h
  split at h
  · cases h
  · dsimp only at h
    split at h <;> rw [List.mem_singleton.mp h]

/-- The path that a node declares for itself. -/
def declaredPath? (v : Json) : Option String := (v.get? "x-ms-metadata").bind (·.text? "path")

/-- The path of an operation: the one it declares, else the one its path item declares, else the key
of the path item. -/
def effectivePath (item operation : Json) (key : String) : String :=
  ((declaredPath? operation).or (declaredPath? item)).getD key

end Identity

end ApiModel

import ApiModel.Text.Split

/-!
# Local paths

Paths of local files are the same if their components are: repeated slashes, a slash at the end and
dots between slashes do not count, a dot at the start does.
-/

namespace ApiModel.LocalPath

/-- The components of a path; `/` stands for the root. -/
def components (path : String) : List String :=
  let parts := (Split.parts '/' path.toList).map String.ofList
  let named := parts.filter fun p => p ≠ "" && p ≠ "."
  match parts with
  | "" :: _ :: _ => "/" :: named
  | "." :: _ => "." :: named
  | _ => named

end ApiModel.LocalPath

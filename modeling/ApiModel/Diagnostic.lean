/-!
# Diagnostics

What a run has to say about a document. A warning is about something that was put right, an error
about something that was left out of the model. Each names the place in the document by its pointer.
-/

namespace ApiModel

inductive Code
  | interpretations
  | missingType
  | fileType
  | unknownType
  | unknownFormat
  | missingItems
  | ambiguousOneOf
  | emptyObject
  | unresolvedReference
  | missingSchema
  | invalidParameter
  | multipleContentTypes
  | duplicateOperation
deriving DecidableEq

/-- The words of a code, from the general to the special. -/
def Code.words : Code → List String
  | .interpretations => ["Interpretations"]
  | .missingType => ["Modeler", "MissingType"]
  | .fileType => ["Modeler", "TypeFileNotValid"]
  | .unknownType => ["Modeler", "UnknownSchemaType"]
  | .unknownFormat => ["Modeler", "UnknownFormat"]
  | .missingItems => ["Modeler", "MissingArrayElementType"]
  | .ambiguousOneOf => ["Modeler", "AmbiguousOneOf"]
  | .emptyObject => ["Modeler", "EmptyObject"]
  | .unresolvedReference => ["Modeler", "UnresolvedReference"]
  | .missingSchema => ["Modeler", "MissingSchema"]
  | .invalidParameter => ["Modeler", "InvalidParameter"]
  | .multipleContentTypes => ["Modeler", "MultipleContentTypes"]
  | .duplicateOperation => ["Modeler", "DuplicateOperation"]

inductive Level
  | warning
  | error
deriving DecidableEq

def Level.text : Level → String
  | .warning => "warning"
  | .error => "error"

structure Diagnostic where
  level : Level
  code : Code
  message : String
  source : String
deriving DecidableEq

namespace Diagnostic

def text (d : Diagnostic) : String :=
  let code := "/".intercalate d.code.words
  s!"{d.level.text} [{code}] {d.message} (at {d.source})"

def isError (d : Diagnostic) : Bool := d.level = .error

/-- How many warnings there are. -/
def warningCount (ds : List Diagnostic) : Nat := ds.countP (! ·.isError)

/-- How many errors there are. -/
def errorCount (ds : List Diagnostic) : Nat := ds.countP (·.isError)

end Diagnostic

end ApiModel

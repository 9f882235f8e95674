import ApiModel.Metadata

/-!
# Schemas

A schema of the model is of one kind, and refers to other schemas by their ids. `Schema.references`
lists the ids it refers to, in the order of the document.
-/

namespace ApiModel

/-- The place of a schema in the catalog. -/
structure SchemaId where
  index : Nat
deriving DecidableEq

/-- The range of a number; a bound may itself be excluded. -/
structure Range where
  minimum : Option Binary64
  maximum : Option Binary64
  exclusiveMinimum : Bool
  exclusiveMaximum : Bool
  multipleOf : Option Binary64

/-- The length of a text and a pattern for it. -/
structure TextLimits where
  minLength : Option Nat
  maxLength : Option Nat
  pattern : Option String
deriving DecidableEq

def TextLimits.none : TextLimits := ⟨.none, .none, .none⟩

/-- How a point in time is written. -/
inductive DateTimeFormat
  | rfc3339
  | rfc1123
deriving DecidableEq

/-- How bytes are written as text. -/
inductive ByteFormat
  | base64
  | base64Url
deriving DecidableEq

/-- One of the values that are allowed. -/
structure Choice where
  name : String
  value : Json
  description : Option String

/-- A key of an object. The name may differ from the key as it is written. -/
structure Property where
  serializedName : String
  name : String
  description : String
  schema : SchemaId
  required : Bool
  readOnly : Bool
  nullable : Bool

namespace Schema

inductive Kind
  | any
  | boolean
  | integer (precision : Nat) (range : Range)
  | number (precision : Nat) (range : Range)
  | string (limits : TextLimits)
  | credential (limits : TextLimits)
  | uri (limits : TextLimits)
  | uuid
  | duration
  | dateTime (format : DateTimeFormat)
  | date
  | char
  | bytes (format : ByteFormat)
  | unixTime
  | array (element : SchemaId) (minItems maxItems : Option Nat) (uniqueItems : Bool)
  | object (properties : List Property) (minProperties maxProperties : Option Nat)
  | dictionary (value : SchemaId)
  | allOf (members : List SchemaId)
  | anyOf (members : List SchemaId)
  | oneOf (members : List SchemaId)
  | choice (choices : List Choice) (valueType : SchemaId) (isSealed : Bool)
  | odataQuery
  | stream

namespace Kind

def isStream : Kind → Bool
  | .stream => true
  | _ => false

/-- The members of a compound. -/
def members : Kind → List SchemaId
  | .allOf members | .anyOf members | .oneOf members => members
  | _ => []

def properties : Kind → List Property
  | .object properties _ _ => properties
  | _ => []

/-- The ids that a kind refers to. -/
def references : Kind → List SchemaId
  | .array element _ _ _ => [element]
  | .dictionary value => [value]
  | .choice _ valueType _ => [valueType]
  | .object properties _ _ => properties.map (·.schema)
  | .allOf members | .anyOf members | .oneOf members => members
  | _ => []

/-- The name of a kind in the text that stands for a missing description. -/
def label : Kind → String
  | .any => "ANY"
  | .boolean => "BOOLEAN"
  | .integer _ _ => "INTEGER"
  | .number _ _ => "NUMBER"
  | .string _ => "STRING"
  | .credential _ => "CREDENTIAL"
  | .uri _ => "URI"
  | .uuid => "UUID"
  | .duration => "DURATION"
  | .dateTime _ => "DATETIME"
  | .date => "DATE"
  | .char => "CHAR"
  | .bytes _ => "BYTEARRAY"
  | .unixTime => "UNIXTIME"
  | .array _ _ _ _ => "ARRAYSCHEMA"
  | .object _ _ _ => "OBJECTSCHEMA"
  | .dictionary _ => "DICTIONARYSCHEMA"
  | .allOf _ => "ANDSCHEMA"
  | .anyOf _ => "ORSCHEMA"
  | .oneOf _ => "XORSCHEMA"
  | .choice _ _ _ => "CHOICE"
  | .odataQuery => "ODATAQUERY"
  | .stream => "STREAM"

def missingDescription (k : Kind) : String := "MISSING-SCHEMA-DESCRIPTION-" ++ k.label

end Kind

end Schema

structure Schema where
  name : String
  description : String
  summary : Option String := none
  deprecated : Bool := false
  example? : Option Json := none
  defaultValue : Option Json := none
  externalDocs : Option ExternalDocs := none
  xml : Option Xml := none
  extensions : List (String × Json) := []
  kind : Schema.Kind

namespace Schema

def references (s : Schema) : List SchemaId := s.kind.references

/-- The schema of a kind with the metadata of a node. -/
def describedBy (name : String) (value : Json) (kind : Kind) : Schema :=
  { name
    description := value.description kind.missingDescription
    summary := value.text? "title"
    deprecated := value.isDeprecated
    example? := value.example?
    defaultValue := value.get? "default"
    externalDocs := value.externalDocs?
    xml := value.xml?
    extensions := value.extensions
    kind }

/-- The schema of a kind that no node describes. -/
def undescribed (name : String) (kind : Kind) : Schema :=
  { name, description := kind.missingDescription, kind }

/-- The schema of any value. -/
def anyValue : Schema := { name := "any", description := "Any value", kind := .any }

@[simp] theorem kind_describedBy (name : String) (value : Json) (kind : Kind) :
    (describedBy name value kind).kind = kind := rfl

@[simp] theorem kind_undescribed (name : String) (kind : Kind) :
    (undescribed name kind).kind = kind := rfl

end Schema

end ApiModel

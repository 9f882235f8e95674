/-!
# Types and formats

The types of JSON values that a schema may name, and the formats that refine them. A format that is
not known is kept by its spelling.
-/

namespace ApiModel

inductive JsonType
  | array
  | boolean
  | integer
  | number
  | object
  | string
deriving DecidableEq

namespace JsonType

def parse? : String → Option JsonType
  | "array" => some .array
  | "boolean" => some .boolean
  | "integer" => some .integer
  | "number" => some .number
  | "object" => some .object
  | "string" => some .string
  | _ => none

def text : JsonType → String
  | .array => "array"
  | .boolean => "boolean"
  | .integer => "integer"
  | .number => "number"
  | .object => "object"
  | .string => "string"

theorem parse?_text (t : JsonType) : parse? t.text = some t := by cases t <;> rfl

end JsonType

inductive Format
  | unset
  | int32
  | int64
  | unixTime
  | float
  | double
  | decimal
  | byte
  | base64Url
  | certificate
  | binary
  | char
  | date
  | dateTime
  | dateTimeRfc1123
  | duration
  | uuid
  | uri
  | password
  | odataQuery
  | other (spelling : String)
deriving DecidableEq

namespace Format

/-- The format of a keyword value; no text is no format. -/
def parse : String → Format
  | "" => .unset
  | "int32" => .int32
  | "int64" => .int64
  | "unixtime" => .unixTime
  | "float" => .float
  | "double" => .double
  | "decimal" => .decimal
  | "byte" => .byte
  | "base64url" => .base64Url
  | "certificate" => .certificate
  | "binary" => .binary
  | "char" => .char
  | "date" => .date
  | "date-time" => .dateTime
  | "date-time-rfc1123" => .dateTimeRfc1123
  | "duration" => .duration
  | "uuid" => .uuid
  | "uri" | "url" => .uri
  | "password" => .password
  | "odata-query" => .odataQuery
  | spelling => .other spelling

def text : Format → String
  | .unset => ""
  | .int32 => "int32"
  | .int64 => "int64"
  | .unixTime => "unixtime"
  | .float => "float"
  | .double => "double"
  | .decimal => "decimal"
  | .byte => "byte"
  | .base64Url => "base64url"
  | .certificate => "certificate"
  | .binary => "binary"
  | .char => "char"
  | .date => "date"
  | .dateTime => "date-time"
  | .dateTimeRfc1123 => "date-time-rfc1123"
  | .duration => "duration"
  | .uuid => "uuid"
  | .uri => "uri"
  | .password => "password"
  | .odataQuery => "odata-query"
  | .other spelling => spelling

def isKnown : Format → Bool
  | .other _ => false
  | _ => true

end Format

end ApiModel

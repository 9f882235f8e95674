import ApiModel.Diagnostic
import ApiModel.Model.Basic
import ApiModel.Tree

/-!
# The written form of a model

Fields have a fixed order, and those without a value are left out. A schema has the fields of its
kind after its own, headed by the name of the kind under `type`.
-/

namespace ApiModel

open ApiModel.Tree

def Contact.tree (c : Contact) : Tree :=
  .record (field? "name" .str c.name ++ field? "url" .str c.url ++ field? "email" .str c.email
    ++ ofFields c.extensions)

def License.tree (l : License) : Tree :=
  .record ([("name", .str l.name)] ++ field? "identifier" .str l.identifier
    ++ field? "url" .str l.url ++ ofFields l.extensions)

def Info.tree (i : Info) : Tree :=
  .record ([("title", .str i.title)] ++ field? "description" .str i.description
    ++ field? "termsOfService" .str i.termsOfService ++ field? "contact" Contact.tree i.contact
    ++ field? "license" License.tree i.license ++ [("version", .str i.version)])

/-! ### Schemas -/

def SchemaId.tree (id : SchemaId) : Tree := nat id.index

def Range.tree (r : Range) : Tree :=
  let bound (x : Binary64) : Tree := .num (.float x)
  .record (field? "minimum" bound r.minimum ++ field? "maximum" bound r.maximum
    ++ flag "exclusiveMinimum" r.exclusiveMinimum ++ flag "exclusiveMaximum" r.exclusiveMaximum
    ++ field? "multipleOf" bound r.multipleOf)

def TextLimits.tree (l : TextLimits) : Tree :=
  .record (field? "minLength" nat l.minLength ++ field? "maxLength" nat l.maxLength
    ++ field? "pattern" .str l.pattern)

def DateTimeFormat.text : DateTimeFormat → String
  | .rfc3339 => "date-time"
  | .rfc1123 => "date-time-rfc1123"

def ByteFormat.text : ByteFormat → String
  | .base64 => "byte"
  | .base64Url => "base64url"

def Choice.tree (c : Choice) : Tree :=
  .record ([("name", .str c.name), ("value", ofJson c.value)]
    ++ field? "description" .str c.description)

def Property.tree (p : Property) : Tree :=
  .record [("serializedName", .str p.serializedName), ("name", .str p.name),
    ("description", .str p.description), ("schema", p.schema.tree), ("required", .bool p.required),
    ("readOnly", .bool p.readOnly), ("nullable", .bool p.nullable)]

namespace Schema.Kind

def typeName : Kind → String
  | .any => "any"
  | .boolean => "boolean"
  | .integer _ _ => "integer"
  | .number _ _ => "number"
  | .string _ => "string"
  | .credential _ => "credential"
  | .uri _ => "uri"
  | .uuid => "uuid"
  | .duration => "duration"
  | .dateTime _ => "date-time"
  | .date => "date"
  | .char => "char"
  | .bytes _ => "byte-array"
  | .unixTime => "unix-time"
  | .array _ _ _ _ => "array"
  | .object _ _ _ => "object"
  | .dictionary _ => "dictionary"
  | .allOf _ => "and"
  | .anyOf _ => "or"
  | .oneOf _ => "xor"
  | .choice _ _ _ => "choice"
  | .odataQuery => "odata-query"
  | .stream => "stream"

def fields : Kind → Fields
  | .integer precision range | .number precision range =>
    [("precision", nat precision), ("constraints", range.tree)]
  | .string limits | .credential limits | .uri limits => [("constraints", limits.tree)]
  | .dateTime format => [("format", .str format.text)]
  | .bytes format => [("format", .str format.text)]
  | .array element minItems maxItems uniqueItems =>
    [("element", element.tree)] ++ field? "minItems" nat minItems
      ++ field? "maxItems" nat maxItems ++ [("uniqueItems", .bool uniqueItems)]
  | .object properties minProperties maxProperties =>
    [("properties", .list (properties.map (·.tree)))]
      ++ field? "minProperties" nat minProperties ++ field? "maxProperties" nat maxProperties
  | .dictionary value => [("value", value.tree)]
  | .allOf members | .anyOf members | .oneOf members =>
    [("members", .list (members.map (·.tree)))]
  | .choice choices valueType isSealed =>
    [("choices", .list (choices.map (·.tree))), ("choiceType", valueType.tree),
      ("sealed", .bool isSealed)]
  | _ => []

end Schema.Kind

def ExternalDocs.tree (d : ExternalDocs) : Tree :=
  .record ([("url", .str d.url), ("description", (d.description.map Tree.str).getD .null)]
    ++ ofFields d.extensions)

def Xml.tree (x : Xml) : Tree :=
  .record (field? "name" .str x.name ++ field? "namespace" .str x.namespaceUri
    ++ field? "prefix" .str x.namespacePrefix ++ field? "attribute" .bool x.asAttribute
    ++ field? "wrapped" .bool x.wrapped)

def Schema.fields (s : Schema) : Fields :=
  [("name", .str s.name), ("description", .str s.description)]
    ++ field? "summary" .str s.summary ++ flag "deprecated" s.deprecated
    ++ field? "example" ofJson s.example? ++ field? "defaultValue" ofJson s.defaultValue
    ++ field? "externalDocs" ExternalDocs.tree s.externalDocs ++ field? "xml" Xml.tree s.xml
    ++ extensionFields s.extensions ++ [("type", .str s.kind.typeName)] ++ s.kind.fields

def Schema.tree (s : Schema) : Tree := .record s.fields

/-- The filled slots, each with its id. -/
def Catalog.tree (c : Catalog) : Tree :=
  .list (c.toList.map fun (id, s) => .record (("id", id.tree) :: s.fields))

/-! ### Servers and operations -/

def ServerId.tree (id : ServerId) : Tree := nat id.index

def ServerVariable.tree (v : ServerVariable) : Tree :=
  .record ([("name", .str v.name), ("description", .str v.description), ("schema", v.schema.tree)]
    ++ field? "defaultValue" .str v.defaultValue)

def Server.tree (s : Server) : Tree :=
  .record ([("url", .str s.url), ("description", .str s.description)]
    ++ if s.urlVariables.isEmpty then []
      else [("variables", .record (s.urlVariables.map fun v => (v.name, v.tree)))])

def Servers.tree (servers : Servers) : Tree :=
  .record [("servers", .list (servers.toList.map (·.tree)))]

def Parameter.tree (p : Parameter) : Tree :=
  .record ([("name", .str p.name), ("description", .str p.description), ("schema", p.schema.tree),
    ("location", .str p.location.text), ("style", .str p.style.text), ("explode", .bool p.explode),
    ("required", .bool p.required), ("implementation", .str p.supplier.text)]
    ++ extensionFields p.extensions)

def Body.tree : Body → Tree
  | .parameter p => .variant "parameter" p.tree
  | .stream schema => .variant "stream" schema.tree

def Request.tree (r : Request) : Tree :=
  .record [("mediaType", .str r.mediaType), ("body", r.body.tree)]

def Operation.tree (op : Operation) : Tree :=
  .record ([("name", .str op.name), ("description", .str op.description)]
    ++ field? "summary" .str op.summary ++ flag "deprecated" op.deprecated
    ++ (if op.tags.isEmpty then [] else [("tags", strings op.tags)])
    ++ [("http", .record [("method", .str op.method.text), ("path", .str op.path),
        ("servers", .list (op.servers.map (·.tree)))]),
      ("parameters", .list (op.parameters.map (·.tree)))]
    ++ field? "request" Request.tree op.request ++ extensionFields op.extensions)

def Group.tree (g : Group) : Tree :=
  .record [("name", .str g.name), ("operations", .list (g.operations.map (·.tree)))]

def Model.tree (m : Model) : Tree :=
  .record ([("info", m.info.tree)] ++ extensionFields m.extensions
    ++ [("schemas", m.catalog.tree), ("protocol", .record [("http", m.servers.tree)]),
      ("operationGroups", .record (m.groups.map fun g => (g.name, g.tree)))])

def Diagnostic.tree (d : Diagnostic) : Tree :=
  .record [("level", .str d.level.text), ("code", strings d.code.words),
    ("message", .str d.message), ("source", .str d.source)]

end ApiModel

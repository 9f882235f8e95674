import ApiModel.Info
import ApiModel.Operation

/-!
# The model of a document

What a run makes of a document: its head and extensions, the schemas, the servers, and the
operations in their groups.
-/

namespace ApiModel

structure Model where
  info : Info
  extensions : List (String × Json)
  catalog : Catalog
  servers : Servers
  groups : Groups

namespace Model

def serversOf (m : Model) (op : Operation) : List Server := op.servers.filterMap m.servers.get?

end Model

end ApiModel

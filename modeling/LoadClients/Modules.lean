import LoadClients.Client
import LoadClients.Schema.Declaration

/-!
The two modules that are generated for a document: type definitions, and the clients themselves.
There is one client for each first tag, in the order in which the tags first appear.
-/

namespace LoadClients

def addToGroup (tag : String) (e : Endpoint) (groups : Table String (List Endpoint)) :
    Table String (List Endpoint) :=
  groups.put tag ((groups.find? tag).getD [] ++ [e])

def groupByTag : Table String (List Endpoint) → List Endpoint →
    Except GenerationError (Table String (List Endpoint))
  | groups, [] => .ok groups
  | groups, e :: es =>
    match e.operation.tags with
    | [] => .error (.untagged e.resource e.method)
    | tag :: _ => groupByTag (addToGroup tag e groups) es

structure Modules where
  types : String
  clients : String
deriving DecidableEq, Repr

namespace Modules

def header : String := "// Generator: oas-to-k6-clients"

/-- The names that any of the clients takes from the load generator, gathered client by client. -/
def typeNames (cs : List Client) : List String :=
  (cs.foldl (fun names c => c.typeNames.foldl TypeNames.add names) Table.empty).keys

def importLine (names : List String) : List String :=
  if names.isEmpty then []
  else ["import \x7b " ++ ", ".intercalate names ++ " \x7d from \"k6/http\";"]

def ofClients (cs : List Client) (schemas : Option (Table String Schema)) : Modules where
  types := header ++ "\n\n" ++ "\n\n".intercalate (importLine (typeNames cs) ++
    cs.map Client.typeSource ++ (schemas.map declarationsSource).toList)
  clients := header ++ "\n\nimport http from \"k6/http\";\n" ++
    "import \x7b check \x7d from \"k6\";\n\n" ++ "\n\n".intercalate (cs.map Client.source)

/-- The clients of a document. All operations are looked at for their tags before any is
converted. -/
def clientsOf (d : Document) : Except GenerationError (List Client) := do
  let groups ← groupByTag Table.empty d.endpoints
  groups.entries.mapM fun g => Client.generate g.1 g.2

def generate (d : Document) : Except GenerationError Modules := do
  let cs ← clientsOf d
  pure (ofClients cs d.schemas)

def typesFile (basename : String) : String := basename ++ ".d.ts"

def clientsFile (basename : String) : String := basename ++ ".js"

def files (m : Modules) (basename : String) : List (String × String) :=
  [(typesFile basename, m.types), (clientsFile basename, m.clients)]

end Modules

end LoadClients

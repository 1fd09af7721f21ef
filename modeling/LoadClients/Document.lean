import LoadClients.Method
import LoadClients.Schema
import LoadClients.Table

/-!
Documents: the operations of an interface by path and method, and the schemas that they share.
-/

namespace LoadClients

structure Info where
  title : String
  description : Option String
  version : String

inductive Location where
  | path | query | header | cookie
  | unsupported (name : String)
deriving DecidableEq, Repr

def Location.ofString (s : String) : Location :=
  match s with
  | "path" => path
  | "query" => query
  | "header" => header
  | "cookie" => cookie
  | _ => unsupported s

structure Parameter where
  name : String
  location : Location
  required : Bool
  description : Option String
  schema : Schema

abbrev Content := Table String Schema

structure RequestBody where
  description : Option String
  content : Content

structure Response where
  description : Option String
  content : Option Content

structure Operation where
  tags : List String
  summary : Option String
  description : Option String
  operationId : Option String
  parameters : List Parameter
  requestBody : Option RequestBody
  responses : Table String Response

abbrev PathItem := Table Method Operation

structure Document where
  openapi : String
  info : Info
  paths : Table String PathItem
  schemas : Option (Table String Schema)

/-- An operation at its place in a document. -/
structure Endpoint where
  resource : String
  method : Method
  operation : Operation

/-- The operations in the order of the paths, and of the methods inside a path. -/
def Document.endpoints (d : Document) : List Endpoint :=
  d.paths.entries.flatMap fun p => p.2.entries.map fun o => ⟨p.1, o.1, o.2⟩

/-- The response that stands for all: the first, unless it is the default and has another after
it. -/
def Operation.representative (o : Operation) : Option (String × Response) :=
  match o.responses.entries with
  | [] => none
  | [r] => some r
  | r :: s :: _ => if r.1 = "default" then some s else some r

end LoadClients

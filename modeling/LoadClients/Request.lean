import LoadClients.Document
import LoadClients.Template

/-!
Requests: operations that were found fit for a client method, with their path template taken apart
and the parameters that a method takes.
-/

namespace LoadClients

/-- Why no clients can be made of a document. -/
inductive GenerationError where
  | untagged (resource : String) (method : Method)
  | unsupportedLocation (resource : String) (method : Method) (name location : String)
  | badPath (resource : String) (cause : BadTemplate)
deriving DecidableEq, Repr

def GenerationError.message : GenerationError → String
  | untagged resource method =>
    "`" ++ method.upperName ++ " " ++ resource ++ "` has no tags; can't choose a client for it"
  | unsupportedLocation resource method name location =>
    "parameter `" ++ name ++ "` of `" ++ method.upperName ++ " " ++ resource ++
      "` has unsupported location `" ++ location ++ "`"
  | badPath resource _ => "`" ++ resource ++ "` isn't a valid path template"

inductive Place where
  | path | query
deriving DecidableEq, Repr

structure Input where
  parameter : Parameter
  place : Place

def Input.binding (i : Input) : String := Naming.camelCase i.parameter.name

/-- The content that a body is sent as. -/
inductive Payload where
  | json (schema : Schema)
  | form (schema : Schema)
  | octets
  | other

namespace Payload

def jsonType : String := "application/json"

def formType : String := "multipart/form-data"

def octetsType : String := "application/octet-stream"

/-- The first of the known media types that a content has. -/
def ofContent (c : Content) : Payload :=
  match c.find? jsonType, c.find? formType, c.find? octetsType with
  | some schema, _, _ => json schema
  | none, some schema, _ => form schema
  | none, none, some _ => octets
  | none, none, none => other

def mediaType : Payload → Option String
  | json _ => some jsonType
  | form _ => some formType
  | octets => some octetsType
  | other => none

def argumentName : Payload → String
  | json (.reference path) => Naming.camelCase (Naming.referenceName path)
  | octets => "binFile"
  | _ => "payload"

def argumentType : Payload → String
  | json schema => schema.typeName
  | form schema => schema.typeName
  | octets => "ArrayBuffer"
  | other => "any"

end Payload

structure Body where
  description : Option String
  payload : Payload

structure Request where
  endpoint : Endpoint
  template : Template
  inputs : List Input
  body : Option Body

/-- The parameters of paths and queries; headers and cookies are left to the caller. Another
location is an error, given by the name of the parameter and the location. -/
def inputsOf : List Parameter → Except (String × String) (List Input)
  | [] => .ok []
  | p :: ps =>
    match p.location with
    | .path => (⟨p, .path⟩ :: ·) <$> inputsOf ps
    | .query => (⟨p, .query⟩ :: ·) <$> inputsOf ps
    | .header => inputsOf ps
    | .cookie => inputsOf ps
    | .unsupported location => .error (p.name, location)

/-- A path that is no template comes before the faults of parameters. -/
def Request.ofEndpoint (e : Endpoint) : Except GenerationError Request :=
  match Template.parse e.resource with
  | .error cause => .error (.badPath e.resource cause)
  | .ok template =>
    match inputsOf e.operation.parameters with
    | .error (name, location) => .error (.unsupportedLocation e.resource e.method name location)
    | .ok inputs =>
      .ok ⟨e, template, inputs,
        e.operation.requestBody.map fun b => ⟨b.description, .ofContent b.content⟩⟩

namespace Request

/-- The name of a method before collisions are looked at. An identifier of the operation wins; else
the last segment that does not begin with a parameter names it, unless that says nothing or only
repeats the tag. -/
def baseName (r : Request) (tag : String) : String :=
  match r.endpoint.operation.operationId with
  | some id => Naming.camelCase id
  | none =>
    let segment :=
      match r.template.segments.reverse.find? (!·.isTemplated) with
      | some s => s.text
      | none => ""
    if segment = "" ∨ segment = tag then r.endpoint.method.name else Naming.camelCase segment

def response (r : Request) : Option (String × Response) := r.endpoint.operation.representative

/-- The type of the decoded response, if it has a content. -/
def responseType (r : Request) : Option String := do
  let (_, response) ← r.response
  let content ← response.content
  let (_, schema) ← content.entries.head?
  pure schema.typeName

/-- The status that a method checks. The default response has none. -/
def checkedStatus (r : Request) : Option String :=
  (r.response.map Prod.fst).filter (· != "default")

end Request

end LoadClients

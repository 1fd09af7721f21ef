import LoadClients.Document
import LoadClients.Document.Version

/-! What a document has to satisfy beyond its shape. -/

namespace LoadClients

inductive Invalidity where
  | badVersion (text : String)
  | unsupportedVersion (version : Version)
  | noResponses (resource : String) (method : Method)
deriving DecidableEq, Repr

def Invalidity.message : Invalidity → String
  | badVersion text => "`" ++ text ++ "` isn't a valid OpenAPI version"
  | unsupportedVersion v => "OpenAPI " ++ v.text ++ " isn't supported; expected 3.x"
  | noResponses resource method =>
    "`" ++ method.upperName ++ " " ++ resource ++ "` doesn't declare any responses"

/-- The document is of version 3, and every operation declares a response. -/
def Document.validate (d : Document) : Except Invalidity Unit :=
  match Version.parse d.openapi with
  | none => .error (.badVersion d.openapi)
  | some v =>
    if v.major ≠ 3 then .error (.unsupportedVersion v)
    else
      match d.endpoints.find? fun e => e.operation.responses.entries.isEmpty with
      | some e => .error (.noResponses e.resource e.method)
      | none => .ok ()

end LoadClients

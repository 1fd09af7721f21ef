import LoadClients.Request

/-! The body of a request. -/

namespace LoadClients

def Payload.statement : Payload → Option String
  | .json schema =>
    some ("\n    const body = JSON.stringify(" ++ (Payload.json schema).argumentName ++ ");")
  | .form _ => some "\n    const body = payload;"
  | .octets =>
    some ("\n    const body = \x7b\n      file: http.file(binFile, undefined, \"" ++
      Payload.octetsType ++ "\")\n    \x7d;")
  | .other => none

namespace Request

/-- The statement that makes the body. A request function that takes a body is given an undefined
one when there is none to send. -/
def bodyStatement (r : Request) : Option String :=
  (r.body.bind fun b => b.payload.statement).or
    (if r.endpoint.method.expectsBody then some "\n    const body = undefined;" else none)

def contentType (r : Request) : Option String := r.body.bind fun b => b.payload.mediaType

end Request

end LoadClients

import LoadClients.Request
import LoadClients.Text.Case.Folding

/-! The address of a request: a template literal over the arguments of its method. -/

namespace LoadClients

def hole (expression : String) : String := "$\x7b" ++ expression ++ "\x7d"

/-- One pair of a query string. The items of an array repeat the name. -/
def Input.queryPair (i : Input) : String :=
  let name := i.parameter.name
  if i.parameter.schema.isArray then
    name ++ "=" ++ hole (i.binding ++ ".join(\"&" ++ name ++ "=\")")
  else name ++ "=" ++ hole i.binding

namespace Request

def queryString (r : Request) : Option String :=
  let pairs := (r.inputs.filter (·.place == .query)).map Input.queryPair
  if pairs.isEmpty then none else some ("&".intercalate pairs)

/-- What a placeholder reads: the argument of the first path parameter with its name, where case
does not count, or else the placeholder itself. -/
def pathBinding (r : Request) (token : String) : String :=
  match r.inputs.find? fun i => i.place == .path && Text.sameFolded i.parameter.name token with
  | some i => i.binding
  | none => token

def fragmentUrl (r : Request) : Fragment → String
  | .literal text => text
  | .param token => hole (r.pathBinding token)

def segmentUrl (r : Request) (s : Segment) : String :=
  "/" ++ String.join (s.fragments.map r.fragmentUrl)

def url (r : Request) : String :=
  "`" ++ hole "this.baseUrl" ++ String.join (r.template.segments.map r.segmentUrl) ++
    (if r.queryString.isSome then "?" ++ hole "qs" else "") ++ "`"

end Request

end LoadClients

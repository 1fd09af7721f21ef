import LoadClients.CallSpace
import LoadClients.Request.Arguments
import LoadClients.Request.Comment
import LoadClients.Request.Sending
import LoadClients.Request.Url

/-!
Client classes. A class holds the operations of one tag, each as a method whose call is its own.
-/

namespace LoadClients

structure ClientMethod where
  className : String
  /-- the name, with a number where calls would collide -/
  name : String
  request : Request

namespace ClientMethod

def argumentText (r : Request) : String := ", ".intercalate r.untypedArguments

def call (m : ClientMethod) : String := callText m.name (argumentText m.request)

def returnsBody (m : ClientMethod) : Bool := m.request.responseType.isSome

def returnType (m : ClientMethod) : String :=
  match m.request.responseType with
  | some type =>
    ": \x7b res: RefinedResponse<ResponseType | undefined>, json(): " ++ type ++ " \x7d"
  | none => ""

def signature (m : ClientMethod) : String :=
  m.name ++ "<RT extends ResponseType | undefined>(" ++ ", ".intercalate m.request.typedArguments ++
    ")"

def typeSource (m : ClientMethod) : String :=
  m.request.comment ++ "\n  " ++ m.signature ++ m.returnType ++ ";"

def queryStatement (m : ClientMethod) : String :=
  match m.request.queryString with
  | some qs => "\n    const qs = `" ++ qs ++ "`;"
  | none => ""

def headerStatement (m : ClientMethod) : String :=
  match m.request.contentType with
  | some type =>
    "\n    params.headers = Object.assign(\x7b\x7d, params.headers, \x7b \"Content-Type\": \"" ++
      type ++ "\" \x7d);"
  | none => ""

/-- The request function is given the body only when there is a statement that makes one. -/
def sendStatement (m : ClientMethod) : String :=
  "\n    const res = " ++ m.request.endpoint.method.function ++ "(" ++ m.request.url ++ ", " ++
    (if m.request.bodyStatement.isSome then "body, " else "") ++ "params);"

/-- The call in a label, where double quotes would end the label. -/
def label (call : String) : String :=
  String.ofList (call.toList.map fun c => if c = '"' then '\'' else c)

def checkStatement (m : ClientMethod) : String :=
  match m.request.checkedStatus with
  | some status =>
    "\n    check(res, \x7b\n      \"" ++ m.className ++ "." ++ label m.call ++ " " ++ status ++
      "\": r => r.status === " ++ status ++ "\n    \x7d);"
  | none => ""

def returnStatement (m : ClientMethod) : String :=
  if m.returnsBody then "\n    return \x7b res, json: () => res.json() \x7d;" else ""

def source (m : ClientMethod) : String :=
  "\n  " ++ m.call ++ " \x7b" ++ m.queryStatement ++ m.request.bodyStatement.getD "" ++
    "\n    params = Object.assign(\x7b\x7d, this.params, params);" ++ m.headerStatement ++
    m.sendStatement ++ m.checkStatement ++ m.returnStatement ++ "\n  \x7d"

end ClientMethod

/-- The types that definitions take from the load generator, in the order in which they were first
needed. -/
abbrev TypeNames := Table String Unit

namespace TypeNames

def add (names : TypeNames) (name : String) : TypeNames := names.put name ()

/-- What the definitions of every client need. -/
def initial : TypeNames := (add Table.empty "RefinedParams").add "ResponseType"

/-- Adds what a method needs. -/
def register (names : TypeNames) (m : ClientMethod) : TypeNames :=
  if m.returnsBody then (names.add "ResponseType").add "RefinedResponse" else names

end TypeNames

structure Client where
  className : String
  methods : List ClientMethod

def classNameOf (tag : String) : String := Naming.capitalize tag ++ "Client"

/-- Methods for requests in order, of which none takes a call that is taken. -/
def nameMethods (tag : String) : CallSpace → List Request → List ClientMethod
  | _, [] => []
  | s, r :: rs =>
    let named := s.assign (r.baseName tag) (ClientMethod.argumentText r)
    ⟨classNameOf tag, named.1, r⟩ :: nameMethods tag named.2 rs

namespace Client

def generate (tag : String) (es : List Endpoint) : Except GenerationError Client := do
  let requests ← es.mapM Request.ofEndpoint
  pure ⟨classNameOf tag, nameMethods tag CallSpace.empty requests⟩

/-- The types that the definitions take from the load generator, gathered method by method. -/
def typeNames (c : Client) : List String :=
  (c.methods.foldl TypeNames.register TypeNames.initial).keys

def typeSource (c : Client) : String :=
  "export class " ++ c.className ++ " \x7b\n" ++
  "  /**\n" ++
  "   * @param baseUrl The base url of the path.\n" ++
  "   * @param [params=undefined] The default request parameters.\n" ++
  "   */\n" ++
  "  constructor(baseUrl: string, params?: RefinedParams<ResponseType | undefined> | null);\n" ++
  "\n".intercalate (c.methods.map ClientMethod.typeSource) ++ "\n\x7d"

def source (c : Client) : String :=
  "export class " ++ c.className ++ " \x7b\n" ++
  "  constructor(baseUrl, defaultParams = undefined) \x7b\n" ++
  "    this.baseUrl = baseUrl;\n" ++
  "    this.params = defaultParams || \x7b\x7d;\n" ++
  "  \x7d\n" ++
  "\n".intercalate (c.methods.map ClientMethod.source) ++ "\n\x7d"

end Client

end LoadClients

import LoadClients.Modules
import LoadClients.Text.Quoted

/-! What a run tells while it goes on. -/

namespace LoadClients

inductive Event where
  | converting (input : String)
  | loaded (title version : String)
  | grouped (clients : Nat)
  | generatingClient (className : String) (operations : Nat)
  | generatingMethod (className : String) (method : Method) (resource call : String)
  | generatingSchemas (schemas : Nat)
  | wroteTypes (path : String)
  | wroteClients (path : String)
  | valid (input : String)
deriving DecidableEq, Repr

namespace Event

/-- Told only on demand. -/
def isDetail : Event → Bool
  | grouped _ => true
  | generatingClient _ _ => true
  | generatingMethod _ _ _ _ => true
  | generatingSchemas _ => true
  | _ => false

/-- A character as a line may show it: controls by which a terminal is driven are written out. -/
def shownChar (c : Char) : List Char :=
  let n := c.toNat
  if [0x07, 0x08, 0x0c, 0x1b, 0x7f].contains n then ['\\', 'x'] ++ Text.hexPadded 2 n
  else if 0x80 ≤ n ∧ n ≤ 0x9f then ['\\', 'u', '\x7b'] ++ Text.hexDigits n ++ ['\x7d']
  else [c]

def shown (s : String) : String := String.ofList (s.toList.flatMap shownChar)

def message : Event → String
  | converting input => shown ("Converting `" ++ input ++ "`")
  | loaded title version => shown ("OpenAPI: " ++ title ++ " (version " ++ version ++ ")")
  | grouped clients => "grouped operations by tag clients=" ++ toString clients
  | generatingClient className operations =>
    "generating client client=" ++ className ++ " operations=" ++ toString operations
  | generatingMethod className method resource call =>
    "generating method client=" ++ className ++ " method=" ++ method.name ++ " resource=" ++
      Text.quoted resource ++ " call=" ++ call
  | generatingSchemas schemas => "generating schema types schemas=" ++ toString schemas
  | wroteTypes path => shown ("Wrote k6 clients type definitions to `" ++ path ++ "`")
  | wroteClients path => shown ("Wrote k6 clients to `" ++ path ++ "`")
  | valid input => shown ("`" ++ input ++ "` is valid")

def line (e : Event) : String := (if e.isDetail then "DEBUG " else "INFO ") ++ e.message

end Event

/-- The requests of operations up to the first that has a fault. -/
def soundRequests : List Endpoint → List Request × Bool
  | [] => ([], true)
  | e :: es =>
    match Request.ofEndpoint e with
    | .error _ => ([], false)
    | .ok r =>
      let rest := soundRequests es
      (r :: rest.1, rest.2)

/-- What is told while a client is generated, and whether no operation had a fault. -/
def clientEvents (tag : String) (es : List Endpoint) : List Event × Bool :=
  let sound := soundRequests es
  (.generatingClient (classNameOf tag) es.length ::
    (nameMethods tag CallSpace.empty sound.1).map fun m =>
      .generatingMethod m.className m.request.endpoint.method m.request.endpoint.resource m.call,
    sound.2)

/-- What is told while clients are generated, up to the first fault. -/
def clientsEvents : List (String × List Endpoint) → List Event × Bool
  | [] => ([], true)
  | (tag, es) :: groups =>
    match clientEvents tag es with
    | (events, false) => (events, false)
    | (events, true) =>
      let rest := clientsEvents groups
      (events ++ rest.1, rest.2)

/-- What is told while the modules for a document are generated, up to the first fault. -/
def generationEvents (d : Document) : List Event :=
  match groupByTag Table.empty d.endpoints with
  | .error _ => []
  | .ok groups =>
    let events := clientsEvents groups.entries
    .grouped groups.size :: events.1 ++
      (if events.2 then d.schemas.toList.map fun s => .generatingSchemas s.size else [])

end LoadClients

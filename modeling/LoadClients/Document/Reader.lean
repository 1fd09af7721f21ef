import LoadClients.Document
import LoadClients.Schema.Reader

/-! Reading documents from a source tree. -/

namespace LoadClients

open Source

/-- A field that was made sure to be given. -/
def given {α : Type} (name : String) : Option α → Reading α
  | some a => .ok a
  | none => .fail (.missingField name)

structure Info.Draft where
  title : Option String := none
  description : Option String := none
  version : Option String := none

def Info.shape : Shape where
  name := "Info"
  fields := [("title", true), ("description", false), ("version", true)]

def readInfo (src : Source) (depth : Nat) (n : Node) : Reading Info := do
  let d ← src.readRecord depth Info.shape (fun (d : Info.Draft) field n =>
    match field with
    | "title" => do return { d with title := some (← src.readText "a string" n) }
    | "description" => do
      return { d with description := ← src.readOptional (src.readText "a string") n }
    | "version" => do return { d with version := some (← src.readText "a string" n) }
    | _ => pure d) {} n
  pure ⟨← given "title" d.title, d.description, ← given "version" d.version⟩

structure Parameter.Draft where
  name : Option String := none
  location : Option Location := none
  required : Bool := false
  description : Option String := none
  schema : Schema := Schema.any

def Parameter.shape : Shape where
  name := "Parameter"
  fields := [("name", true), ("in", true), ("required", false), ("description", false),
    ("schema", false)]

def readParameter (src : Source) (depth : Nat) (n : Node) : Reading Parameter := do
  let d ← src.readRecord depth Parameter.shape (fun (d : Parameter.Draft) field n =>
    match field with
    | "name" => do return { d with name := some (← src.readText "a string" n) }
    | "in" => do
      return { d with location := some (Location.ofString (← src.readText "a string" n)) }
    | "required" => do return { d with required := ← src.readFlag n }
    | "description" => do
      return { d with description := ← src.readOptional (src.readText "a string") n }
    | "schema" => do return { d with schema := ← readSchema src (depth - 1) n }
    | _ => pure d) {} n
  pure ⟨← given "name" d.name, ← given "in" d.location, d.required, d.description, d.schema⟩

def MediaType.shape : Shape where
  name := "MediaType"
  fields := [("schema", false)]

def readMediaType (src : Source) (depth : Nat) (n : Node) : Reading Schema :=
  src.readRecord depth MediaType.shape (fun s field n =>
    match field with
    | "schema" => readSchema src (depth - 1) n
    | _ => pure s) Schema.any n

def readContentTable (src : Source) (depth : Nat) (n : Node) : Reading Content :=
  src.readTable depth (readMediaType src (depth - 1)) n

def RequestBody.shape : Shape where
  name := "RequestBody"
  fields := [("description", false), ("content", false)]

def readRequestBody (src : Source) (depth : Nat) (n : Node) : Reading RequestBody :=
  src.readRecord depth RequestBody.shape (fun (b : RequestBody) field n =>
    match field with
    | "description" => do
      return { b with description := ← src.readOptional (src.readText "a string") n }
    | "content" => do return { b with content := ← readContentTable src (depth - 1) n }
    | _ => pure b) ⟨none, Table.empty⟩ n

def Response.shape : Shape where
  name := "Response"
  fields := [("description", false), ("content", false)]

def readResponse (src : Source) (depth : Nat) (n : Node) : Reading Response :=
  src.readRecord depth Response.shape (fun (r : Response) field n =>
    match field with
    | "description" => do
      return { r with description := ← src.readOptional (src.readText "a string") n }
    | "content" => do
      return { r with content := ← src.readOptional (readContentTable src (depth - 1)) n }
    | _ => pure r) ⟨none, none⟩ n

/-- A response key as it is written: a bare number, or a text. -/
inductive StatusKey where
  | code (n : Nat)
  | text (s : String)
deriving DecidableEq, Repr

def StatusKey.status : StatusKey → String
  | code n => toString n
  | text s => s

def statusKey? : Node → Option StatusKey
  | .scalar s =>
    match s.datum with
    | .integer n => if n < 0 then none else some (.code n.toNat)
    | .text t => some (.text t)
    | _ => none
  | _ => none

/-- Responses by their status. Entries are first written under their keys as they are, and then
under the status that the keys have as text. -/
def responsesOf (es : List (StatusKey × Response)) : Table String Response :=
  Table.ofList ((Table.ofList es).entries.map fun e => (e.1.status, e.2))

def readStatusEntries (src : Source) (depth : Nat) :
    List (Node × Node) → Reading (List (StatusKey × Response))
  | [] => .ok []
  | (k, v) :: es => do
    let step := keyStep (src.resolve k)
    let content ← Reading.below step (src.readContent depth k)
    match statusKey? content with
    | none => Reading.below step (.fail (.noVariant "StatusKey"))
    | some key =>
      let r ← Reading.below step (readResponse src depth v)
      let rs ← readStatusEntries src depth es
      pure ((key, r) :: rs)

def readResponses (src : Source) (depth : Nat) (n : Node) : Reading (Table String Response) := do
  let (es, closed) ← src.entries depth "a map" n
  let rs ← readStatusEntries src (depth - 1) es
  closing closed (responsesOf rs)

def Operation.shape : Shape where
  name := "Operation"
  fields := [("tags", false), ("summary", false), ("description", false), ("operationId", false),
    ("parameters", false), ("requestBody", false), ("responses", false)]

def Operation.blank : Operation := ⟨[], none, none, none, [], none, Table.empty⟩

def readOperation (src : Source) (depth : Nat) (n : Node) : Reading Operation :=
  let below := depth - 1
  src.readRecord depth Operation.shape (fun (o : Operation) field n =>
    match field with
    | "tags" => do return { o with tags := ← src.readList below (src.readText "a string") n }
    | "summary" => do return { o with summary := ← src.readOptional (src.readText "a string") n }
    | "description" => do
      return { o with description := ← src.readOptional (src.readText "a string") n }
    | "operationId" => do
      return { o with operationId := ← src.readOptional (src.readText "a string") n }
    | "parameters" => do
      return { o with parameters := ← src.readList below (readParameter src (below - 1)) n }
    | "requestBody" => do
      return { o with requestBody := ← src.readOptional (readRequestBody src below) n }
    | "responses" => do return { o with responses := ← readResponses src below n }
    | _ => pure o) Operation.blank n

/-- Reads the entries of a path item into it. Keys that are no methods are passed over. -/
def readPathEntries (src : Source) (depth : Nat) :
    PathItem → List (Node × Node) → Reading PathItem
  | item, [] => .ok item
  | item, (k, v) :: es => do
    let key ← src.readKey "a string" k
    match Method.ofName? key with
    | some m =>
      let o ← Reading.below (.key key) (readOperation src depth v)
      readPathEntries src depth (item.put m o) es
    | none =>
      skip v
      readPathEntries src depth item es

def readPathItem (src : Source) (depth : Nat) (n : Node) : Reading PathItem := do
  let (es, closed) ← src.entries depth "a path item" n
  let item ← readPathEntries src (depth - 1) Table.empty es
  closing closed item

def Components.shape : Shape where
  name := "Components"
  fields := [("schemas", false)]

def readComponents (src : Source) (depth : Nat) (n : Node) : Reading (Table String Schema) :=
  src.readRecord depth Components.shape (fun t field n =>
    match field with
    | "schemas" => src.readTable (depth - 1) (readSchema src (depth - 1 - 1)) n
    | _ => pure t) Table.empty n

structure Document.Draft where
  openapi : Option String := none
  info : Option Info := none
  paths : Option (Table String PathItem) := none
  schemas : Option (Table String Schema) := none

def Document.shape : Shape where
  name := "Document"
  fields := [("openapi", true), ("info", true), ("paths", true), ("components", false)]

def readDocument (src : Source) : Reading Document := do
  let depth := src.format.depth
  let below := depth - 1
  let d ← src.readRecord depth Document.shape (fun (d : Document.Draft) field n =>
    match field with
    | "openapi" => do return { d with openapi := some (← src.readText "a string" n) }
    | "info" => do return { d with info := some (← readInfo src below n) }
    | "paths" => do
      return { d with paths := some (← src.readTable below (readPathItem src (below - 1)) n) }
    | "components" => do
      return { d with schemas := ← src.readOptional (readComponents src below) n }
    | _ => pure d) {} src.root
  pure ⟨← given "openapi" d.openapi, ← given "info" d.info, ← given "paths" d.paths, d.schemas⟩

end LoadClients

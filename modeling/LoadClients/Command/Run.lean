import LoadClients.Command
import LoadClients.Command.Basename
import LoadClients.Command.Event
import LoadClients.Disk
import LoadClients.Document.Validity
import LoadClients.TextFormat

/-!
Carrying out a command. All of the input is read and checked, and all text generated, before
anything is written.
-/

namespace LoadClients

/-- How a run ended, and what it told. -/
structure Report where
  ending : Ending
  events : List Event
deriving DecidableEq, Repr

def Report.lines (r : Report) (verbose : Bool) : List String :=
  (r.events.filter fun e => verbose || !e.isDetail).map Event.line

/-- Reads a document from the text of a file and checks it. -/
def documentOf (path text : String) : Except Ending Document :=
  match (TextFormat.ofPath path).document text with
  | .error _ => .error (.failed "Failed to parse OpenAPI document")
  | .ok d =>
    match d.validate with
    | .error _ => .error (.failed "Invalid OpenAPI document")
    | .ok () => .ok d

def Document.event (d : Document) : Event := .loaded d.info.title d.info.version

section
variable {m : Type → Type} [Monad m] [Disk m]

def load (path : String) : m (Except Ending Document) := do
  match ← Disk.read path with
  | .ok text => pure (documentOf path text)
  | .error _ => pure (.error (.failed ("Failed to read `" ++ path ++ "`")))

/-- The configuration of a directory. It may be missing. -/
def loadConfig (directory : String) : m (Except Ending Config) := do
  match ← Disk.read (Path.join directory Config.fileName) with
  | .ok text =>
    match Config.ofText? text with
    | some config => pure (.ok config)
    | none => pure (.error .refused)
  | .error .missing => pure (.ok ⟨none⟩)
  | .error _ => pure (.error .refused)

/-- Writes a file into a directory, which is made if it is missing. -/
def save (directory name text : String) : m (Except Ending Unit) := do
  match ← Disk.makeDirectories directory with
  | .error _ =>
    pure (.error (.failed ("Failed to create directory `" ++ Path.directoryText directory ++ "`")))
  | .ok () =>
    let path := Path.join directory name
    match ← Disk.write path text with
    | .error _ => pure (.error (.failed ("Failed to write `" ++ path ++ "`")))
    | .ok () => pure (.ok ())

/-- Writes the two files, the types first. -/
def store (directory basename : String) (modules : Modules) : m Report := do
  let types := Modules.typesFile basename
  let clients := Modules.clientsFile basename
  match ← save directory types modules.types with
  | .error ending => pure ⟨ending, []⟩
  | .ok () =>
    let wroteTypes := Event.wroteTypes (Path.join directory types)
    match ← save directory clients modules.clients with
    | .error ending => pure ⟨ending, [wroteTypes]⟩
    | .ok () =>
      pure ⟨.success, [wroteTypes, .wroteClients (Path.join directory clients)]⟩

/-- What is told first is told before the rest. -/
def Report.after (events : List Event) (r : Report) : Report :=
  { r with events := events ++ r.events }

/-- Writes the modules for a document under a name. -/
def convert (input directory basename : String) : m Report := do
  match ← load input with
  | .error ending => pure ⟨ending, [.converting input]⟩
  | .ok d =>
    let events := .converting input :: d.event :: generationEvents d
    match Modules.generate d with
    | .error e => pure ⟨.failed e.message, events⟩
    | .ok modules => return (← store directory basename modules).after events

def codegen (input directory : String) (basename : Option String) : m Report := do
  match ← loadConfig directory with
  | .error ending => pure ⟨ending, []⟩
  | .ok config =>
    match Basename.resolve input basename config.basename with
    | none => pure ⟨.refused, []⟩
    | some basename => convert input directory basename

def validate (input : String) : m Report := do
  match ← load input with
  | .error ending => pure ⟨ending, []⟩
  | .ok d => pure ⟨.success, [d.event, .valid input]⟩

def Command.run : Command → m Report
  | codegen input directory basename => LoadClients.codegen input directory basename
  | validate input => LoadClients.validate input

end

end LoadClients

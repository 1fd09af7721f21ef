import LoadClients.Document.Reader
import LoadClients.Json.Reader
import LoadClients.Path
import LoadClients.Yaml.Tree

/-! The formats of source texts, and what is read from a text of either. -/

namespace LoadClients

inductive TextFormat where
  | json | yaml
deriving DecidableEq, Repr

namespace TextFormat

/-- The format of a file. Only one extension tells of JSON. -/
def ofPath (path : String) : TextFormat :=
  if Path.extension? path = some "json" then json else yaml

def source (format : TextFormat) (text : String) : Source :=
  match format with
  | json => (Json.read text).1
  | yaml => Yaml.read text

/-- Nothing but space follows what was read. In YAML a text that holds more is malformed as a whole. -/
def endsWell (format : TextFormat) (text : String) : Bool :=
  match format with
  | json => Json.endsWell (Json.read text).2
  | yaml => true

def readWhole {α : Type} (format : TextFormat) (read : Source → Reading α) (text : String) :
    Reading α := do
  let a ← read (format.source text)
  Source.closing (format.endsWell text) a

/-- Reads a document. Of a JSON text what follows the document does not count. -/
def document (format : TextFormat) (text : String) : Reading Document :=
  readDocument (format.source text)

def value (format : TextFormat) (text : String) : Reading Value :=
  format.readWhole (fun src => src.readValue src.format.depth src.root) text

def schema (format : TextFormat) (text : String) : Reading Schema :=
  format.readWhole (fun src => readSchema src src.format.depth src.root) text

def schemas (format : TextFormat) (text : String) : Reading (Table String Schema) :=
  format.readWhole (fun src =>
    let depth := src.format.depth
    src.readTable depth (readSchema src (depth - 1)) src.root) text

end TextFormat

end LoadClients

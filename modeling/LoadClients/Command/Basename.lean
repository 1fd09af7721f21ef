import LoadClients.Path
import LoadClients.Toml.Reader

/-! The name of the written files, without their extensions. -/

namespace LoadClients

/-- The configuration that an output directory may hold. -/
structure Config where
  basename : Option String
deriving DecidableEq, Repr

namespace Config

def fileName : String := ".k6-clients.toml"

/-- Reads a configuration. The name is a text, and other entries do not count. -/
def ofText? (s : String) : Option Config := do
  match (← Toml.read? s).lookup "basename" with
  | none => some ⟨none⟩
  | some (.text basename) => some ⟨some basename⟩
  | some _ => none

end Config

namespace Basename

/-- Characters that the names of files do not hold everywhere. -/
def isForbidden (c : Char) : Bool :=
  ['/', '\\', '?', '%', '*', ':', '|', '"', '<', '>', ' '].contains c

def sanitize (s : String) : String := String.ofList (s.toList.filter (!isForbidden ·))

/-- The given name, or else the configured one, as far as something is left of it; or else the
name of the input. -/
def resolve (input : String) (given configured : Option String) : Option String :=
  match ((given.toList ++ configured.toList).map sanitize).find? (!·.isEmpty) with
  | some basename => some basename
  | none => Path.stem? input

end Basename

end LoadClients

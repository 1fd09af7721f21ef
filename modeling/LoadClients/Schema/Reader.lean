import LoadClients.Schema
import LoadClients.Source.Content

/-! Reading schemas from a source tree. -/

namespace LoadClients

open Source

def nameOf : Node → Option TypeName
  | .scalar s => s.text.map TypeName.ofString
  | _ => none

/-- A type, or a list of types, given as texts. -/
def typesOf : Node → Option (Option TypeName)
  | .scalar s => (nameOf (.scalar s)).map some
  | .list ns _ => (ns.mapM nameOf).map TypeName.choose
  | _ => none

def readType (src : Source) (depth : Nat) : Node → Reading (Option TypeName) := fun n => do
  let types ← src.readOptional (fun n => do
    let content ← src.readContent depth n
    match typesOf content with
    | some t => pure t
    | none => .fail (.noVariant "TypesOr")) n
  pure types.join

/-- The values of an object under further keys. A flag says nothing about them. -/
def readMapValues (src : Source) (depth : Nat) (read : Source → Node → Reading Keywords) :
    Node → Reading (Option MapValues) := fun n => do
  let found ← src.readOptional (fun n => do
    let content ← src.readContent depth n
    match content with
    | .scalar s =>
      match s.flag with
      | some _ => pure none
      | none => .fail (.noVariant "AdditionalPropertiesOr")
    | _ =>
      match read src.buffered content with
      | .ok k => pure (some ⟨k.type, k.reference⟩)
      | .error _ => .fail (.noVariant "AdditionalPropertiesOr")) n
  pure found.join

def Keywords.shape : Shape where
  name := "SchemaObject"
  fields := [("$ref", false), ("type", false), ("default", false), ("properties", false),
    ("required", false), ("additionalProperties", false), ("items", false), ("enum", false),
    ("allOf", false)]

/-- Reads one keyword, where `read` reads a schema one level further down, and `readBelow` one that
lies in a list or a table there. -/
def Keywords.put (src : Source) (depth : Nat) (read readBelow : Source → Node → Reading Keywords)
    (k : Keywords) (field : String) (n : Node) : Reading Keywords :=
  let schemas (n : Node) : Reading Schema := Schema.ofKeywords <$> readBelow src n
  match field with
  | "$ref" => do return { k with reference := ← src.readOptional (src.readText "a string") n }
  | "type" => do return { k with type := ← readType src depth n }
  | "default" => do return { k with default := ← src.readOptional (src.readValue depth) n }
  | "properties" => do
    let t ← src.readOptional (src.readTable depth schemas) n
    return { k with properties := t.map Table.entries }
  | "required" => do return { k with required := ← src.readList depth (src.readText "a string") n }
  | "additionalProperties" => do return { k with additional := ← readMapValues src depth read n }
  | "items" => do
    let items ← src.readOptional (read src) n
    return { k with items := items.map Schema.ofKeywords }
  | "enum" => do
    let variants ← src.readOptional (src.readList depth (src.readValue (depth - 1))) n
    return { k with variants := variants }
  | "allOf" => do return { k with parts := ← src.readOptional (src.readList depth schemas) n }
  | _ => pure k

def readKeywords : Nat → Source → Node → Reading Keywords
  | 0, src, n => src.readRecord 0 Keywords.shape (fun k _ _ => pure k) {} n
  | depth + 1, src, n =>
    src.readRecord (depth + 1) Keywords.shape
      (Keywords.put src depth (readKeywords depth)
        (match depth with
          | 0 => fun _ _ => .error .malformed
          | depth + 1 => readKeywords depth)) {} n

def readSchema (src : Source) (depth : Nat) (n : Node) : Reading Schema :=
  Schema.ofKeywords <$> readKeywords depth src n

end LoadClients

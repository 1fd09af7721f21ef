import LoadClients.Source.Fault
import LoadClients.Source.Node
import LoadClients.Table
import LoadClients.Text.Quoted

/-!
Reading the parts of a source tree as text, flags, lists, tables and records. Parts are read in the
order of the text, and the first fault ends the reading. A count of the levels that may still be
entered goes along.
-/

namespace LoadClients

/-- What messages call the datum. -/
def Datum.describe (format : Format) : Datum → String
  | null => format.nullName
  | boolean b => s!"boolean `{b}`"
  | integer n => s!"integer `{n}`"
  | wide n => s!"integer `{n}` as " ++ (if n < 0 then "i128" else "u128")
  | float x => s!"floating point `{format.floatLayout.render x}`"
  | infinite negative => "floating point `" ++ (if negative then "-inf" else "inf") ++ "`"
  | notANumber => "floating point `NaN`"
  | text s => "string " ++ Text.quoted s
  | mistagged s _ => "string " ++ Text.quoted s

namespace Source

def mismatch {α : Type} (src : Source) (expected : String) : Node → Reading α
  | .scalar s =>
    match s.datum with
    | .mistagged t wanted => .fail (.wrongText (Text.quoted t) wanted)
    | d => .fail (.wrongType (d.describe src.format) expected)
  | .list _ _ => .fail (.wrongType "sequence" expected)
  | .map _ _ => .fail (.wrongType "map" expected)
  | .variant n => src.mismatch expected n
  | .sameAs _ | .unreadable | .malformed => .error .malformed

def tooDeep {α : Type} (src : Source) : Reading α :=
  if src.format.strictDepth then .error .malformed else .fail .tooDeep

/-- The node without a tag of its own. -/
def content (src : Source) (n : Node) : Node :=
  match src.resolve n with
  | .variant m => m
  | m => m

def readText (src : Source) (expected : String) (n : Node) : Reading String :=
  match src.content n with
  | .scalar s =>
    match s.text with
    | some t => .ok t
    | none => src.mismatch expected (.scalar s)
  | m => src.mismatch expected m

def readFlag (src : Source) (n : Node) : Reading Bool :=
  match src.content n with
  | .scalar s =>
    match s.flag with
    | some b => .ok b
    | none => src.mismatch "a boolean" (.scalar s)
  | m => src.mismatch "a boolean" m

def readOptional {α : Type} (src : Source) (read : Node → Reading α) (n : Node) :
    Reading (Option α) :=
  match src.resolve n with
  | .scalar s =>
    match s.absent, s.datum with
    | false, _ => some <$> read n
    | true, .mistagged _ wanted => src.mismatch wanted (.scalar s)
    | true, _ => .ok none
  | _ => some <$> read n

def items (src : Source) (depth : Nat) (n : Node) : Reading (List Node × Bool) :=
  match src.content n with
  | .list items closed => if depth = 0 then src.tooDeep else .ok (items, closed)
  | .scalar s => if s.blank then .ok ([], true) else src.mismatch "a sequence" (.scalar s)
  | m => src.mismatch "a sequence" m

def entries (src : Source) (depth : Nat) (expected : String) (n : Node) :
    Reading (List (Node × Node) × Bool) :=
  match src.content n with
  | .map entries closed => if depth = 0 then src.tooDeep else .ok (entries, closed)
  | .scalar s => if s.blank then .ok ([], true) else src.mismatch expected (.scalar s)
  | m => src.mismatch expected m

/-- What was read, provided that the text goes on well. -/
def closing {α : Type} (closed : Bool) (a : α) : Reading α :=
  if closed then .ok a else .error .malformed

def readItems {α : Type} (read : Node → Reading α) : Nat → List Node → Reading (List α)
  | _, [] => .ok []
  | i, n :: ns => do
    let a ← Reading.below (.index i) (read n)
    let as ← readItems read (i + 1) ns
    pure (a :: as)

def readList {α : Type} (src : Source) (depth : Nat) (read : Node → Reading α) (n : Node) :
    Reading (List α) := do
  let (ns, closed) ← src.items depth n
  let as ← readItems read 0 ns
  closing closed as

/-- A key that is read as text. -/
def readKey (src : Source) (expected : String) (n : Node) : Reading String :=
  Reading.below .unnamed (src.readText expected n)

/-- Writes entries into a table one after the other. -/
def readEntries {α : Type} (src : Source) (read : Node → Reading α) :
    Table String α → List (Node × Node) → Reading (Table String α)
  | t, [] => .ok t
  | t, (k, v) :: es => do
    let key ← src.readKey "a string" k
    let a ← Reading.below (.key key) (read v)
    src.readEntries read (t.put key a) es

/-- A table with text keys. The last of several values for a key counts. -/
def readTable {α : Type} (src : Source) (depth : Nat) (read : Node → Reading α) (n : Node) :
    Reading (Table String α) := do
  let (es, closed) ← src.entries depth "a map" n
  let t ← src.readEntries read Table.empty es
  closing closed t

def skip (n : Node) : Reading Unit := if n.sound then .ok () else .error .malformed

/-- The fields of a record, in order, with the mark of those that must be given. -/
structure Shape where
  name : String
  fields : List (String × Bool)

def Shape.has (shape : Shape) (field : String) : Bool := shape.fields.any (·.1 == field)

def fieldName (src : Source) (shape : Shape) (n : Node) : Reading String :=
  match src.content n with
  | .scalar s =>
    match s.text, s.datum, src.format.numberedFields with
    | some t, _, _ => .ok t
    | none, .integer i, true =>
      if i < 0 then Reading.below .unnamed (src.mismatch "field identifier" (.scalar s))
      else .ok ((shape.fields[i.toNat]?.map Prod.fst).getD "")
    | none, _, _ => Reading.below .unnamed (src.mismatch "field identifier" (.scalar s))
  | m => Reading.below .unnamed (src.mismatch "field identifier" m)

/-- Reads the entries of a record into `draft`. Unknown fields are passed over and may repeat. -/
def readFields {σ : Type} (src : Source) (shape : Shape) (put : σ → String → Node → Reading σ) :
    σ → List String → List (Node × Node) → Reading σ
  | draft, seen, [] =>
    match shape.fields.find? fun f => f.2 && !seen.contains f.1 with
    | some f => .fail (.missingField f.1)
    | none => .ok draft
  | draft, seen, (k, v) :: es => do
    let field ← src.fieldName shape k
    if shape.has field then
      if seen.contains field then .fail (.duplicateField field)
      else
        let draft ← Reading.below (.key field) (put draft field v)
        src.readFields shape put draft (field :: seen) es
    else
      skip v
      src.readFields shape put draft seen es

/-- Reads a record given as a list of its fields in order. -/
def readPlaces {σ : Type} (shape : Shape) (put : σ → String → Node → Reading σ) (closed : Bool) :
    σ → Nat → List (String × Bool) → List Node → Reading σ
  | draft, _, [], [] => closing closed draft
  | _, _, [], _ :: _ => .error .malformed
  | draft, i, (_, required) :: fs, [] =>
    if !closed then .error .malformed
    else if required then .fail (.wrongLength i shape.name shape.fields.length)
    else readPlaces shape put closed draft (i + 1) fs []
  | draft, i, (field, _) :: fs, n :: ns => do
    let draft ← Reading.below (.index i) (put draft field n)
    readPlaces shape put closed draft (i + 1) fs ns

/-- Reads a record: its fields are put into `draft`. -/
def readRecord {σ : Type} (src : Source) (depth : Nat) (shape : Shape)
    (put : σ → String → Node → Reading σ) (draft : σ) (n : Node) : Reading σ :=
  match src.content n, src.format.listsAsRecords with
  | .list ns closed, true => do
    if depth = 0 then src.tooDeep
    readPlaces shape put closed draft 0 shape.fields ns
  | _, _ => do
    let (es, closed) ← src.entries depth ("struct " ++ shape.name) n
    if closed then src.readFields shape put draft [] es
    else
      let _ ← src.readFields { shape with fields := shape.fields.map fun f => (f.1, false) }
        put draft [] es
      .error .malformed

end Source

end LoadClients

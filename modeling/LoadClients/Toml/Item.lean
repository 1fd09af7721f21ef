/-!
The tables of a TOML text while it is read. A table is written once: under its own header, by the
headers of the tables in it, or by keys with points; only some of these may be mixed.
-/

namespace LoadClients.Toml

/-- How a table came to be. -/
inductive Origin where
  /-- by its own header -/
  | header
  /-- by the header of a table in it -/
  | passed
  /-- by a key with points -/
  | dotted
deriving DecidableEq

inductive Item where
  | text (s : String)
  /-- a value that takes nothing in any more -/
  | closed
  | table (origin : Origin) (entries : List (String × Item))
  /-- a list of tables, of which the last may still grow -/
  | tables (entries : List (String × Item))

/-- The entries of a table, and how it came to be. -/
structure Body where
  origin : Origin
  entries : List (String × Item)

namespace Body

def find? (b : Body) (k : String) : Option Item := b.entries.lookup k

def put (b : Body) (k : String) (i : Item) : Body :=
  { b with entries :=
      if (b.find? k).isSome then b.entries.map fun e => if e.1 = k then (k, i) else e
      else b.entries ++ [(k, i)] }

/-- Changes the table at the end of a path, of which the last table of a list is a part. Missing
tables are begun. A key with points does not pass a table with a header, nor a list. -/
def change (dotted : Bool) (f : Body → Option Body) : List String → Body → Option Body
  | [], b => f b
  | k :: ks, b =>
    match b.find? k with
    | none => do
      let c ← change dotted f ks ⟨if dotted then .dotted else .passed, []⟩
      some (b.put k (.table c.origin c.entries))
    | some (.table origin entries) =>
      if dotted && origin == .header then none
      else do
        let c ← change dotted f ks ⟨origin, entries⟩
        some (b.put k (.table c.origin c.entries))
    | some (.tables entries) =>
      if dotted then none
      else do
        let c ← change dotted f ks ⟨.header, entries⟩
        some (b.put k (.tables c.entries))
    | some _ => none

def lastKey : List String → Option (List String × String)
  | [] => none
  | [k] => some ([], k)
  | k :: ks => (lastKey ks).map fun r => (k :: r.1, r.2)

def beginTable (path : List String) (b : Body) : Option Body := do
  let (way, k) ← lastKey path
  b.change false (fun t =>
    match t.find? k with
    | none => some (t.put k (.table .header []))
    | some (.table .passed entries) => some (t.put k (.table .header entries))
    | _ => none) way

def beginListed (path : List String) (b : Body) : Option Body := do
  let (way, k) ← lastKey path
  b.change false (fun t =>
    match t.find? k with
    | none => some (t.put k (.tables []))
    | some (.tables _) => some (t.put k (.tables []))
    | _ => none) way

def define (path : List String) (i : Item) (b : Body) : Option Body := do
  let (way, k) ← lastKey path
  b.change true (fun t =>
    if (t.find? k).isSome || (!way.isEmpty && t.origin != .dotted) then none
    else some (t.put k i)) way

end Body

end LoadClients.Toml

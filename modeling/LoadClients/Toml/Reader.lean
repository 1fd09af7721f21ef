import LoadClients.Toml.Item
import LoadClients.Toml.Quoted
import LoadClients.Toml.Scalar

/-! Reading TOML texts line by line. -/

namespace LoadClients.Toml

def skipSpace (cs : List Char) : List Char := cs.dropWhile isSpace

/-- A comment up to the end of its line; none when a control stands in it. -/
def skipComment (cs : List Char) : Option (List Char) :=
  match cs with
  | '#' :: _ =>
    let rest := cs.dropWhile (!isControl ·)
    if rest.isEmpty || (takeLineEnd rest).isSome then some rest else none
  | _ => some cs

/-- Goes on to the next line. Nothing but a comment may be left on this one. -/
def endLine (cs : List Char) : Option (List Char) := do
  let cs ← skipComment (skipSpace cs)
  if cs.isEmpty then some [] else takeLineEnd cs

def skipLayout : Nat → List Char → Option (List Char)
  | 0, cs => some cs
  | fuel + 1, cs =>
    match skipBlank cs with
    | '#' :: rest => do
      let cs ← skipComment ('#' :: rest)
      skipLayout fuel cs
    | cs => some cs

def isKeyChar (c : Char) : Bool := c.isAlphanum || c == '-' || c == '_'

def takeSimpleKey (cs : List Char) : Option (String × List Char) :=
  match cs.takeWhile isKeyChar with
  | [] => takeQuotedLine cs
  | ks => some (String.ofList ks, cs.dropWhile isKeyChar)

def takeKey : Nat → List Char → Option (List String × List Char)
  | 0, _ => none
  | fuel + 1, cs => do
    let (k, cs) ← takeSimpleKey (skipSpace cs)
    match skipSpace cs with
    | '.' :: cs =>
      let (ks, cs) ← takeKey fuel cs
      some (k :: ks, cs)
    | cs => some ([k], cs)

/-- How deep arrays and tables may nest in a value. -/
def depthLimit : Nat := 80

mutual

def takeValue : Nat → Nat → List Char → Option (Item × List Char)
  | 0, _, _ => none
  | fuel + 1, depth, cs =>
    match cs with
    | '[' :: cs => do
      if depthLimit ≤ depth then none
      let rest ← takeItems fuel (depth + 1) cs
      some (.closed, rest)
    | '\x7b' :: cs => do
      if depthLimit ≤ depth then none
      let rest ← takeEntries fuel (depth + 1) ⟨.header, []⟩ cs
      some (.closed, rest)
    | cs =>
      match takeQuoted cs with
      | some (s, rest) => some (.text s, rest)
      | none => (takeScalar cs).map (.closed, ·)

def takeItems : Nat → Nat → List Char → Option (List Char)
  | 0, _, _ => none
  | fuel + 1, depth, cs => do
    match ← skipLayout (cs.length + 1) cs with
    | ']' :: rest => some rest
    | cs =>
      let (_, cs) ← takeValue fuel depth cs
      match ← skipLayout (cs.length + 1) cs with
      | ']' :: rest => some rest
      | ',' :: rest => takeItems fuel depth rest
      | _ => none

/-- Entries up to the end of a table inside a value. -/
def takeEntries : Nat → Nat → Body → List Char → Option (List Char)
  | 0, _, _, _ => none
  | fuel + 1, depth, b, cs => do
    match ← skipLayout (cs.length + 1) cs with
    | '\x7d' :: rest => some rest
    | cs =>
      let (b, cs) ← takeEntry fuel depth [] b cs
      match ← skipLayout (cs.length + 1) cs with
      | '\x7d' :: rest => some rest
      | ',' :: rest => takeEntries fuel depth b rest
      | _ => none

/-- A key and its value, for the table at the end of a path. -/
def takeEntry : Nat → Nat → List String → Body → List Char → Option (Body × List Char)
  | 0, _, _, _, _ => none
  | fuel + 1, depth, path, b, cs => do
    let (ks, cs) ← takeKey (cs.length + 1) cs
    match cs with
    | '=' :: cs =>
      let (i, cs) ← takeValue fuel depth (skipSpace cs)
      let b ← b.change false (Body.define ks i) path
      some (b, cs)
    | _ => none

end

def takeHeader (cs : List Char) (b : Body) : Option (List String × Body × List Char) :=
  match cs with
  | '[' :: '[' :: cs => do
    let (path, cs) ← takeKey (cs.length + 1) cs
    match cs with
    | ']' :: ']' :: cs =>
      let b ← b.beginListed path
      some (path, b, cs)
    | _ => none
  | '[' :: cs => do
    let (path, cs) ← takeKey (cs.length + 1) cs
    match cs with
    | ']' :: cs =>
      let b ← b.beginTable path
      some (path, b, cs)
    | _ => none
  | _ => none

/-- Reads lines; those after a header belong to its table. -/
def readLines : Nat → List String → Body → List Char → Option Body
  | 0, _, _, _ => none
  | fuel + 1, path, b, cs =>
    match skipSpace cs with
    | [] => some b
    | c :: rest => do
      let cs := c :: rest
      let (path, b, cs) ←
        if c = '[' then takeHeader cs b
        else if c = '#' ∨ (takeLineEnd cs).isSome then some (path, b, cs)
        else (takeEntry (2 * cs.length + 2) 0 path b cs).map fun r => (path, r.1, r.2)
      readLines fuel path b (← endLine cs)

/-- The entries at the top of a text; none when any of it is malformed. -/
def read? (s : String) : Option (List (String × Item)) :=
  let cs := match s.toList with
    | '\ufeff' :: cs => cs
    | cs => cs
  (readLines (cs.length + 1) [] ⟨.header, []⟩ cs).map Body.entries

end LoadClients.Toml

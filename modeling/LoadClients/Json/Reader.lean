import LoadClients.Json.Number

/-!
Reading JSON text as a source tree. The text is read from the left; at the first place where it is
malformed the tree ends, and no rest is left.
-/

namespace LoadClients.Json

def format : Format where
  nullName := "null"
  floatLayout := .compact
  listsAsRecords := true
  numberedFields := false
  depth := 127
  strictDepth := true

def isSpace (c : Char) : Bool := c == ' ' || c == '\n' || c == '\t' || c == '\r'

def skipSpace (cs : List Char) : List Char := cs.dropWhile isSpace

def takeUnit : List Char → Option (Nat × List Char)
  | a :: b :: c :: d :: cs => do
    let a ← Text.hexValue? a
    let b ← Text.hexValue? b
    let c ← Text.hexValue? c
    let d ← Text.hexValue? d
    pure (((a * 16 + b) * 16 + c) * 16 + d, cs)
  | _ => none

def isHigh (u : Nat) : Bool := 0xd800 ≤ u && u ≤ 0xdbff

def isLow (u : Nat) : Bool := 0xdc00 ≤ u && u ≤ 0xdfff

def simpleEscape? (c : Char) : Option Char :=
  if c = '"' ∨ c = '\\' ∨ c = '/' then some c
  else if c = 'b' then some '\x08'
  else if c = 'f' then some '\x0c'
  else if c = 'n' then some '\n'
  else if c = 'r' then some '\r'
  else if c = 't' then some '\t'
  else none

/-- The character of an escaped unit, with the unit after it when the two are a pair; no character
for a half of a pair that stands alone. -/
def takeEscapedUnit (cs : List Char) : Option (Option Char × List Char) := do
  let (u, rest) ← takeUnit cs
  if isLow u then pure (none, rest)
  else if isHigh u then
    match rest with
    | '\\' :: 'u' :: more =>
      match takeUnit more with
      | some (v, rest') =>
        if isLow v then
          pure (some (Char.ofNat (0x10000 + (u - 0xd800) * 1024 + (v - 0xdc00))), rest')
        else pure (none, rest)
      | none => pure (none, rest)
    | _ => pure (none, rest)
  else pure (some (Char.ofNat u), rest)

/-- The rest of a string after its quote. The string has no value when an escape has none. -/
def takeString : Nat → Option (List Char) → List Char → Option (Option (List Char) × List Char)
  | 0, _, _ => none
  | _, _, [] => none
  | fuel + 1, read, c :: cs =>
    if c = '"' then some (read.map List.reverse, cs)
    else if c = '\\' then
      match cs with
      | 'u' :: rest => do
        let (c?, rest) ← takeEscapedUnit rest
        takeString fuel (do let r ← read; let c ← c?; pure (c :: r)) rest
      | e :: rest => do
        let c ← simpleEscape? e
        takeString fuel (read.map (c :: ·)) rest
      | [] => none
    else if c.toNat < 0x20 then none
    else takeString fuel (read.map (c :: ·)) cs

def stringNode : Option (List Char) → Node
  | some cs => .scalar (Datum.text (String.ofList cs)).bare
  | none => .unreadable

def takeWord (word cs : List Char) (d : Datum) : Node × Option (List Char) :=
  if word.isPrefixOf cs then (.scalar d.bare, some (cs.drop word.length)) else (.malformed, none)

def takeNumberNode (cs : List Char) : Node × Option (List Char) :=
  match takeNumber cs with
  | some (t, rest) =>
    match t.datum with
    | some d => (.scalar d.bare, some rest)
    | none => (.unreadable, some rest)
  | none => (.malformed, none)

mutual

def takeNode : Nat → List Char → Node × Option (List Char)
  | 0, _ => (.malformed, none)
  | fuel + 1, cs =>
    match skipSpace cs with
    | [] => (.malformed, none)
    | c :: cs =>
      if c = '[' then
        match skipSpace cs with
        | ']' :: rest => (.list [] true, some rest)
        | cs => takeItems fuel [] cs
      else if c = '\x7b' then
        match skipSpace cs with
        | '\x7d' :: rest => (.map [] true, some rest)
        | cs => takeEntries fuel [] cs
      else if c = '"' then
        match takeString fuel (some []) cs with
        | some (s, rest) => (stringNode s, some rest)
        | none => (.malformed, none)
      else if c = 'n' then takeWord ['u', 'l', 'l'] cs .null
      else if c = 't' then takeWord ['r', 'u', 'e'] cs (.boolean true)
      else if c = 'f' then takeWord ['a', 'l', 's', 'e'] cs (.boolean false)
      else takeNumberNode (c :: cs)

/-- Items up to the end of their list, after those that were read. -/
def takeItems : Nat → List Node → List Char → Node × Option (List Char)
  | 0, read, _ => (.list read.reverse false, none)
  | fuel + 1, read, cs =>
    match takeNode fuel cs with
    | (n, none) => (.list (n :: read).reverse false, none)
    | (n, some rest) =>
      let read := n :: read
      match skipSpace rest with
      | ']' :: rest => (.list read.reverse true, some rest)
      | ',' :: rest =>
        match skipSpace rest with
        | ']' :: _ => (.list read.reverse false, none)
        | cs => takeItems fuel read cs
      | _ => (.list read.reverse false, none)

/-- Entries up to the end of their map, after those that were read. -/
def takeEntries : Nat → List (Node × Node) → List Char → Node × Option (List Char)
  | 0, read, _ => (.map read.reverse false, none)
  | fuel + 1, read, cs =>
    match cs with
    | '"' :: cs =>
      match takeString fuel (some []) cs with
      | none => (.map read.reverse false, none)
      | some (s, rest) =>
        let key := stringNode s
        match skipSpace rest with
        | ':' :: rest =>
          match takeNode fuel rest with
          | (n, none) => (.map ((key, n) :: read).reverse false, none)
          | (n, some rest) =>
            let read := (key, n) :: read
            match skipSpace rest with
            | '\x7d' :: rest => (.map read.reverse true, some rest)
            | ',' :: rest => takeEntries fuel read (skipSpace rest)
            | _ => (.map read.reverse false, none)
        | _ => (.map ((key, .malformed) :: read).reverse false, none)
    | _ => (.map read.reverse false, none)

end

/-- The source at the front of a text, and what follows it. -/
def read (s : String) : Source × Option (List Char) :=
  let r := takeNode (2 * s.length + 2) s.toList
  (⟨format, r.1, []⟩, r.2)

/-- Nothing but space follows. -/
def endsWell (rest : Option (List Char)) : Bool :=
  match rest with
  | some cs => (skipSpace cs).isEmpty
  | none => false

end LoadClients.Json

import LoadClients.Yaml.Lexer
import LoadClients.Yaml.Resolution

/-!
The tree that tokens build. Blocks that are not written count as empty scalars. An anchor names the
node at which it stands from its beginning on, so that a node may lie inside itself.
-/

namespace LoadClients.Yaml

/-- The tokens that are left, and what the document has named so far. -/
structure Builder where
  tokens : List Token
  /-- the tags that handles stand for -/
  handles : List (String × String)
  /-- the numbers of the anchors -/
  numbers : List (String × Nat)
  /-- how many nodes had an anchor -/
  named : Nat
  /-- the place of each number among the nodes with an anchor, the last first -/
  places : List (Nat × Nat)
  /-- the nodes with an anchor, by place -/
  nodes : List (Nat × Node)

abbrev Building := StateT Builder Option

namespace Building

def peek : Building (Option Token) := return (← get).tokens.head?

def advance : Building Unit := modify fun b => { b with tokens := b.tokens.tail }

def sees (ts : List Token) : Building Bool := do
  match ← peek with
  | some t => pure (ts.contains t)
  | none => pure false

def accept (t : Token) : Building Bool := do
  if ← sees [t] then
    advance
    pure true
  else pure false

def expect (t : Token) : Building Unit := do
  if !(← accept t) then failure

/-- Nothing is written in front of one of these tokens. -/
def emptyBefore (ends : List Token) (read : Building Node) : Building Node := do
  if ← sees ends then pure emptyNode else read

/-- The content of an alias. -/
def reuse (name : String) : Building Node := do
  match (← get).numbers.lookup name with
  | some number => pure (.sameAs number)
  | none => failure

/-- Reads the node at which an anchor stands. Its number is the count of the names before it. -/
def anchored (anchor : Option String) (read : Building Node) : Building Node :=
  match anchor with
  | none => read
  | some name => do
    let b ← get
    let number := b.numbers.length
    let numbers := (name, number) :: b.numbers.filter (·.1 != name)
    set { b with
      numbers := numbers, named := b.named + 1, places := (number, b.named) :: b.places }
    let n ← read
    modify fun c => { c with nodes := (b.named, n) :: c.nodes }
    pure n

def takeAnchor : Building (Option String) := do
  match ← peek with
  | some (.anchor name) =>
    advance
    pure (some name)
  | _ => pure none

def takeTag : Building (Option String) := do
  match ← peek with
  | some (.tag handle suffix) =>
    advance
    if handle.isEmpty then pure (some suffix)
    else
      match (← get).handles.lookup handle with
      | some lead => pure (some (lead ++ suffix))
      | none => failure
  | _ => pure none

/-- The anchor and the tag in front of a node, in any order. -/
def takeProperties : Building (Option String × Option String) := do
  match ← takeAnchor with
  | some anchor => return (some anchor, ← takeTag)
  | none =>
    let tag ← takeTag
    return (← takeAnchor, tag)

def tagged (tag : Option String) (n : Node) : Node :=
  if tag.map Tag.ofName = some .own then .variant n else n

def scalar (tag : Option String) (text : String) (style : Style) : Node :=
  scalarNode (if tag = some "!" then none else tag.map Tag.ofName) style text

mutual

/-- Reads a node; `block` where blocks may begin, and `indentless` where a list may begin without an
indentation of its own. -/
def node (block indentless : Bool) : Nat → Building Node
  | 0 => failure
  | fuel + 1 => do
    if let some (.reuse name) ← peek then
      advance
      reuse name
    else
      let (anchor, tag) ← takeProperties
      anchored anchor (content block indentless (anchor.isSome || tag.isSome) tag fuel)

/-- Reads a node behind its properties. -/
def content (block indentless marked : Bool) (tag : Option String) : Nat → Building Node
  | 0 => failure
  | fuel + 1 => do
    match ← peek with
    | some (.scalar text style) =>
      advance
      pure (scalar tag text style)
    | some t =>
      if t = .blockEntry ∧ indentless then
        return tagged tag (.list (← indentlessItems fuel) true)
      else if t = .flowListStart then
        advance
        return tagged tag (.list (← flowItems true fuel) true)
      else if t = .flowMapStart then
        advance
        return tagged tag (.map (← flowEntries true fuel) true)
      else if t = .blockListStart ∧ block then
        advance
        return tagged tag (.list (← blockItems fuel) true)
      else if t = .blockMapStart ∧ block then
        advance
        return tagged tag (.map (← blockEntries fuel) true)
      else if marked then pure (scalar tag "" .plain)
      else failure
    | none => failure

def blockItems : Nat → Building (List Node)
  | 0 => failure
  | fuel + 1 => do
    if ← accept .blockEntry then
      let n ← emptyBefore [.blockEntry, .blockEnd] (node true false fuel)
      return n :: (← blockItems fuel)
    else
      expect .blockEnd
      pure []

def indentlessItems : Nat → Building (List Node)
  | 0 => failure
  | fuel + 1 => do
    if ← accept .blockEntry then
      let n ← emptyBefore [.blockEntry, .key, .value, .blockEnd] (node true false fuel)
      return n :: (← indentlessItems fuel)
    else pure []

def blockEntries : Nat → Building (List (Node × Node))
  | 0 => failure
  | fuel + 1 => do
    if ← accept .key then
      let ends := [.key, .value, .blockEnd]
      let k ← emptyBefore ends (node true true fuel)
      let v ← if ← accept .value then emptyBefore ends (node true true fuel) else pure emptyNode
      return (k, v) :: (← blockEntries fuel)
    else
      expect .blockEnd
      pure []

def flowItems (first : Bool) : Nat → Building (List Node)
  | 0 => failure
  | fuel + 1 => do
    if ← accept .flowListEnd then return []
    if !first then expect .flowEntry
    if ← accept .key then
      let n ← flowPair fuel
      return n :: (← flowItems false fuel)
    else if ← accept .flowListEnd then pure []
    else
      let n ← node false false fuel
      return n :: (← flowItems false fuel)

/-- A map of one entry as an item of a list. The token that ends an empty key is passed over. -/
def flowPair : Nat → Building Node
  | 0 => failure
  | fuel + 1 => do
    let k ←
      if ← sees [.value, .flowEntry, .flowListEnd] then
        advance
        pure emptyNode
      else node false false fuel
    let v ←
      if ← accept .value then emptyBefore [.flowEntry, .flowListEnd] (node false false fuel)
      else pure emptyNode
    pure (.map [(k, v)] true)

def flowEntries (first : Bool) : Nat → Building (List (Node × Node))
  | 0 => failure
  | fuel + 1 => do
    if ← accept .flowMapEnd then return []
    if !first then expect .flowEntry
    if ← accept .key then
      let k ← emptyBefore [.value, .flowEntry, .flowMapEnd] (node false false fuel)
      let v ←
        if ← accept .value then emptyBefore [.flowEntry, .flowMapEnd] (node false false fuel)
        else pure emptyNode
      return (k, v) :: (← flowEntries false fuel)
    else if ← accept .flowMapEnd then pure []
    else
      let k ← node false false fuel
      return (k, emptyNode) :: (← flowEntries false fuel)

end

/-- Reads directives, and says whether there are any. A document names its version at most once, and
each handle at most once. -/
def directives (version : Bool) (handles : List (String × String)) :
    Nat → Building (Bool × List (String × String))
  | 0 => failure
  | fuel + 1 => do
    match ← peek with
    | some (.versionDirective major minor) =>
      if version || major != 1 || (minor != 1 && minor != 2) then failure
      advance
      directives true handles fuel
    | some (.tagDirective handle lead) =>
      if (handles.lookup handle).isSome then failure
      advance
      directives version ((handle, lead) :: handles) fuel
    | _ => pure (version || !handles.isEmpty, handles)

def standardHandles : List (String × String) := [("!", "!"), ("!!", "tag:yaml.org,2002:")]

def document : Building Node := do
  if ← accept .streamEnd then return emptyNode
  let fuel := 2 * (← get).tokens.length + 2
  let (directed, handles) ← directives false [] fuel
  modify fun b => { b with handles := handles ++ standardHandles }
  let n ←
    if ← accept .documentStart then
      emptyBefore [.documentStart, .documentEnd, .streamEnd] (node true false fuel)
    else if directed then failure
    else node true false fuel
  endDocument fuel
  pure n
where
  endDocument : Nat → Building Unit
    | 0 => failure
    | fuel + 1 => do
      if ← accept .documentEnd then endDocument fuel
      else expect .streamEnd

end Building

def format : Format where
  nullName := "unit value"
  floatLayout := .pointed
  listsAsRecords := false
  numberedFields := false
  depth := 128
  strictDepth := false

/-- The content of every anchor's number. Of several nodes with a number the last counts. -/
def Builder.anchors (b : Builder) : List (Nat × Node) :=
  b.places.filterMap fun p => (b.nodes.lookup p.2).map fun n => (p.1, n)

/-- The one document of a text as a source; nothing of it is left where any of it is malformed. -/
def read (s : String) : Source :=
  match (tokensOf s).bind fun ts => Building.document.run ⟨ts, [], [], 0, [], []⟩ with
  | some (n, b) => ⟨format, n, b.anchors⟩
  | none => ⟨format, .malformed, []⟩

end LoadClients.Yaml

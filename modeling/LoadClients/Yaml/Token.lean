import LoadClients.Yaml.Scalar

/-! Tokens, and those of them that are read without regard to the layout. -/

namespace LoadClients.Yaml

inductive Token where
  | streamEnd
  | versionDirective (major minor : Nat)
  | tagDirective (handle lead : String)
  | documentStart
  | documentEnd
  | blockListStart
  | blockMapStart
  | blockEnd
  | flowListStart
  | flowListEnd
  | flowMapStart
  | flowMapEnd
  | blockEntry
  | flowEntry
  | key
  | value
  | reuse (name : String)
  | anchor (name : String)
  | tag (handle suffix : String)
  | scalar (text : String) (style : Style)
deriving DecidableEq

/-- The name of an anchor or of an alias, after its mark. -/
def takeAnchorName (c : Cursor) : Option (String × Cursor) :=
  let name := c.take isWordChar
  let c := c.skipWhile isWordChar
  let ended := match c.rest with
    | [] => true
    | x :: _ => isGapOrBreak x || ['?', ':', ',', ']', '\x7d', '%', '@', '\x60'].contains x
  if name.isEmpty || !ended then none else some (String.ofList name, c)

/-- Characters of a tag that stand for themselves. Between angle brackets a few more are allowed. -/
def isTagChar (verbatim : Bool) (c : Char) : Bool :=
  isWordChar c ||
    [';', '/', '?', ':', '@', '&', '=', '+', '$', '.', '!', '~', '*', '\'', '(', ')'].contains c ||
    (verbatim && [',', '[', ']'].contains c)

/-- A byte written as a percent sign and two hexadecimal digits. -/
def takeByte : List Char → Option (Nat × List Char)
  | '%' :: a :: b :: rest => do
    let n ← Text.numeral? 16 [a, b]
    some (n, rest)
  | _ => none

def takeContinuation : Nat → Nat → List Char → Option (Nat × List Char)
  | 0, n, cs => some (n, cs)
  | k + 1, n, cs => do
    let (b, cs) ← takeByte cs
    if b / 64 = 2 then takeContinuation k (64 * n + b % 64) cs else none

/-- A character written byte by byte; also gives the count of its bytes. -/
def takeEscapedChar (cs : List Char) : Option (Char × Nat) := do
  let (b, cs) ← takeByte cs
  let (k, n) ←
    if b < 0x80 then some (0, b)
    else if 0xc0 ≤ b ∧ b < 0xe0 then some (1, b % 32)
    else if 0xe0 ≤ b ∧ b < 0xf0 then some (2, b % 16)
    else if 0xf0 ≤ b ∧ b < 0xf8 then some (3, b % 8)
    else none
  let (n, _) ← takeContinuation k n cs
  some (Char.ofNat n, k + 1)

def takeTagChars (verbatim : Bool) : Nat → List Char → Cursor → Option (List Char × Cursor)
  | 0, _, _ => none
  | fuel + 1, read, c =>
    match c.rest with
    | [] => some (read.reverse, c)
    | x :: _ =>
      if x = '%' then do
        let (y, bytes) ← takeEscapedChar c.rest
        takeTagChars verbatim fuel (y :: read) (c.skip (3 * bytes))
      else if isTagChar verbatim x then takeTagChars verbatim fuel (x :: read) (c.skip 1)
      else some (read.reverse, c)

/-- A handle: exclamation marks around a word, or one alone in front of it. -/
def takeHandle (c : Cursor) : Option (List Char × Cursor) :=
  match c.rest with
  | '!' :: _ =>
    let c := c.skip 1
    let word := c.take isWordChar
    let c := c.skipWhile isWordChar
    match c.rest with
    | '!' :: _ => some ('!' :: word ++ ['!'], c.skip 1)
    | _ => some ('!' :: word, c)
  | _ => none

def isWholeHandle (h : List Char) : Bool := h.length ≥ 2 && h.getLast? == some '!'

def takeTag (flow : Bool) (c : Cursor) : Option (Token × Cursor) := do
  let (handle, suffix, c) ←
    match c.rest with
    | '!' :: '<' :: _ => do
      let c := c.skip 2
      let (suffix, c) ← takeTagChars true c.bound [] c
      match suffix, c.rest with
      | [], _ => none
      | _, '>' :: _ => some ([], suffix, c.skip 1)
      | _, _ => none
    | _ => do
      let (head, c) ← takeHandle c
      if isWholeHandle head then
        let (suffix, c) ← takeTagChars false c.bound [] c
        if suffix.isEmpty then none else some (head, suffix, c)
      else
        let (more, c) ← takeTagChars false c.bound [] c
        let suffix := head.drop 1 ++ more
        if suffix.isEmpty then some ([], ['!'], c) else some (['!'], suffix, c)
  if endsWord c.rest || (flow && c.rest.head? == some ',') then
    some (.tag (String.ofList handle) (String.ofList suffix), c)
  else none

def takeVersionNumber (c : Cursor) : Option (Nat × Cursor) :=
  let ds := c.take Char.isDigit
  if ds.isEmpty || decide (9 < ds.length) then none
  else some (Text.decimal ds, c.skipWhile Char.isDigit)

def takeDirective (c : Cursor) : Option (Token × Cursor) := do
  let c := c.skip 1
  let name := c.take isWordChar
  let c := c.skipWhile isWordChar
  if name.isEmpty || !endsWord c.rest then none
  let (token, c) ←
    if name = ['Y', 'A', 'M', 'L'] then do
      let (major, c) ← takeVersionNumber (c.skipWhile isGap)
      if c.rest.head? ≠ some '.' then none
      let (minor, c) ← takeVersionNumber (c.skip 1)
      some (Token.versionDirective major minor, c)
    else if name = ['T', 'A', 'G'] then do
      let (handle, c) ← takeHandle (c.skipWhile isGap)
      if !(isWholeHandle handle || handle == ['!']) then none
      if !startsWithGap c.rest then none
      let c := c.skipWhile isGap
      let (lead, c) ← takeTagChars true c.bound [] c
      if lead.isEmpty || !endsWord c.rest then none
      some (Token.tagDirective (String.ofList handle) (String.ofList lead), c)
    else none
  let c := (c.skipWhile isGap).skipComment
  if endsLine c.rest then some (token, c.skipBreak) else none

end LoadClients.Yaml

import LoadClients.Yaml.Token

/-!
Tokens with their layout. Blocks begin and end where the indentation changes. What precedes a colon
on its line turns out to be a key only at the colon; the marks of the key are put in front of it
then.
-/

namespace LoadClients.Yaml

/-- A place where a key may have begun. -/
structure PossibleKey where
  required : Bool
  /-- how many tokens precede it -/
  number : Nat
  index : Nat
  line : Nat
  column : Nat

structure Lexer where
  cursor : Cursor
  /-- the tokens so far, the last first -/
  tokens : List Token
  /-- how many they are -/
  count : Nat
  indent : Int
  indents : List Int
  /-- the possible keys, one for each open flow collection and one for the block around them -/
  keys : List (Option PossibleKey)
  keyAllowed : Bool

namespace Lexer

def start (c : Cursor) : Lexer := ⟨c, [], 0, -1, [], [none], true⟩

def inFlow (l : Lexer) : Bool :=
  match l.keys with
  | _ :: _ :: _ => true
  | _ => false

def push (l : Lexer) (t : Token) : Lexer :=
  { l with tokens := t :: l.tokens, count := l.count + 1 }

def goTo (l : Lexer) (c : Cursor) : Lexer := { l with cursor := c }

/-- Puts a token behind the first `number` ones. -/
def insert (l : Lexer) (number : Nat) (t : Token) : Lexer :=
  let later := l.count - number
  { l with tokens := l.tokens.take later ++ t :: l.tokens.drop later, count := l.count + 1 }

/-- A deeper column begins a block. -/
def roll (l : Lexer) (column : Nat) (number : Nat) (t : Token) : Lexer :=
  if l.inFlow || decide ((column : Int) ≤ l.indent) then l
  else { l.insert number t with indent := column, indents := l.indent :: l.indents }

def unrollFrom (column : Int) : Lexer → Int → List Int → Lexer
  | l, indent, [] => { l with indent := indent, indents := [] }
  | l, indent, i :: is =>
    if column < indent then unrollFrom column (l.push .blockEnd) i is
    else { l with indent := indent, indents := i :: is }

/-- All blocks deeper than the column end. -/
def unroll (l : Lexer) (column : Int) : Lexer :=
  if l.inFlow then l else unrollFrom column l l.indent l.indents

def dropKey (l : Lexer) : Option Lexer :=
  match l.keys with
  | some k :: ks => if k.required then none else some { l with keys := none :: ks }
  | _ => some l

/-- A key may begin here. -/
def saveKey (l : Lexer) : Option Lexer :=
  if l.keyAllowed then do
    let required := !l.inFlow && decide (l.indent = l.cursor.column)
    let key : PossibleKey :=
      ⟨required, l.count, l.cursor.index, l.cursor.line, l.cursor.column⟩
    let l ← l.dropKey
    some { l with keys := some key :: l.keys.drop 1 }
  else some l

/-- A key stays on its line and is not longer than 1024 characters. -/
def stale (c : Cursor) (k : PossibleKey) : Bool := k.line < c.line || k.index + 1024 < c.index

def dropStaleKeys (c : Cursor) : List (Option PossibleKey) → Option (List (Option PossibleKey))
  | [] => some []
  | none :: ks => (none :: ·) <$> dropStaleKeys c ks
  | some k :: ks =>
    if stale c k then if k.required then none else (none :: ·) <$> dropStaleKeys c ks
    else (some k :: ·) <$> dropStaleKeys c ks

/-- Goes on to the next token, over white space, comments and line breaks. -/
def skipSpace : Nat → Lexer → Lexer
  | 0, l => l
  | fuel + 1, l =>
    let tabs := l.inFlow || !l.keyAllowed
    let c := if l.cursor.index = 0 ∧ l.cursor.rest.head? = some '\ufeff' then l.cursor.skip 1
      else l.cursor
    let c := (c.skipWhile fun x => x == ' ' || (tabs && x == '\t')).skipComment
    match c.rest with
    | x :: _ =>
      if isBreak x then
        skipSpace fuel { l with cursor := c.skipBreak, keyAllowed := l.keyAllowed || !l.inFlow }
      else l.goTo c
    | [] => l.goTo c

/-- A token at the cursor, after which a key may begin or not. -/
def take (l : Lexer) (t : Token) (length : Nat) (keyAllowed : Bool) : Lexer :=
  { (l.push t) with cursor := l.cursor.skip length, keyAllowed := keyAllowed }

/-- A mark that concerns a whole document. -/
def takeOutside (l : Lexer) : Option Lexer := do
  let l ← (l.unroll (-1)).dropKey
  some { l with keyAllowed := false }

def openFlow (l : Lexer) (t : Token) : Option Lexer := do
  let l ← l.saveKey
  some { l.take t 1 true with keys := none :: l.keys }

def closeFlow (l : Lexer) (t : Token) : Option Lexer := do
  let l ← l.dropKey
  some { l.take t 1 false with keys := if l.inFlow then l.keys.drop 1 else l.keys }

def takeBlockEntry (l : Lexer) : Option Lexer := do
  if !l.inFlow && !l.keyAllowed then none
  let l ← (l.roll l.cursor.column l.count .blockListStart).dropKey
  some (l.take .blockEntry 1 true)

def takeKey (l : Lexer) : Option Lexer := do
  if !l.inFlow && !l.keyAllowed then none
  let l ← (l.roll l.cursor.column l.count .blockMapStart).dropKey
  some (l.take .key 1 (!l.inFlow))

def takeValue (l : Lexer) : Option Lexer :=
  match l.keys with
  | some k :: ks =>
    let l := (l.insert k.number .key).roll k.column k.number .blockMapStart
    some { l.take .value 1 false with keys := none :: ks }
  | _ =>
    if !l.inFlow && !l.keyAllowed then none
    else some ((l.roll l.cursor.column l.count .blockMapStart).take .value 1 (!l.inFlow))

/-- A token that can be a key, or begin one. -/
def takeNode (l : Lexer) (r : Option (Token × Cursor)) : Option Lexer := do
  let l ← l.saveKey
  let (t, c) ← r
  some { (l.push t) with cursor := c, keyAllowed := false }

def takeBlockScalar (l : Lexer) (literal : Bool) : Option Lexer := do
  let l ← l.dropKey
  let (text, c) ← takeBlock literal l.indent l.cursor
  let style := if literal then Style.literal else Style.folded
  some { (l.push (.scalar (String.ofList text) style)) with cursor := c, keyAllowed := true }

def takePlainScalar (l : Lexer) : Option Lexer := do
  let l ← l.saveKey
  let (text, broken, c) ← takePlain l.inFlow l.indent l.cursor
  some { (l.push (.scalar (String.ofList text) .plain)) with cursor := c, keyAllowed := broken }

/-- A plain scalar begins with none of the marks, save some that a word follows. -/
def startsPlain (flow : Bool) : List Char → Bool
  | [] => false
  | x :: rest =>
    !(isGapOrBreak x || ['-', '?', ':', ',', '[', ']', '\x7b', '\x7d', '#', '&', '*', '!', '|', '>',
        '\'', '"', '%', '@', '\x60'].contains x) ||
      (x == '-' && !startsWithGap rest) || (!flow && (x == '?' || x == ':') && !endsWord rest)

def takeToken (l : Lexer) : Option Lexer :=
  let c := l.cursor
  let flow := l.inFlow
  match c.rest with
  | [] => none
  | x :: rest =>
    if c.column = 0 ∧ x = '%' then do
      let l ← l.takeOutside
      let (t, c) ← takeDirective c
      some ((l.push t).goTo c)
    else if c.column = 0 ∧ isMarkOf '-' c.rest then
      l.takeOutside.map (·.take .documentStart 3 false)
    else if c.column = 0 ∧ isMarkOf '.' c.rest then
      l.takeOutside.map (·.take .documentEnd 3 false)
    else if x = '[' then l.openFlow .flowListStart
    else if x = '\x7b' then l.openFlow .flowMapStart
    else if x = ']' then l.closeFlow .flowListEnd
    else if x = '\x7d' then l.closeFlow .flowMapEnd
    else if x = ',' then l.dropKey.map (·.take .flowEntry 1 true)
    else if x = '-' ∧ endsWord rest then l.takeBlockEntry
    else if x = '?' ∧ (flow ∨ endsWord rest) then l.takeKey
    else if x = ':' ∧ (flow ∨ endsWord rest) then l.takeValue
    else if x = '*' then
      l.takeNode ((takeAnchorName (c.skip 1)).map fun r => (.reuse r.1, r.2))
    else if x = '&' then
      l.takeNode ((takeAnchorName (c.skip 1)).map fun r => (.anchor r.1, r.2))
    else if x = '!' then l.takeNode (takeTag flow c)
    else if x = '|' ∧ !flow then l.takeBlockScalar true
    else if x = '>' ∧ !flow then l.takeBlockScalar false
    else if x = '\'' then
      l.takeNode ((takeQuoted true c).map fun r => (.scalar (String.ofList r.1) .single, r.2))
    else if x = '"' then
      l.takeNode ((takeQuoted false c).map fun r => (.scalar (String.ofList r.1) .double, r.2))
    else if startsPlain flow c.rest then l.takePlainScalar
    else none

/-- Reads tokens up to the end of the text. -/
def run : Nat → Lexer → Option (List Token)
  | 0, _ => none
  | fuel + 1, l => do
    let l := l.skipSpace l.cursor.bound
    let keys ← dropStaleKeys l.cursor l.keys
    let l := { l with keys := keys }
    let l := l.unroll l.cursor.column
    if l.cursor.rest.isEmpty then
      let l ← (l.unroll (-1)).dropKey
      some (Token.streamEnd :: l.tokens).reverse
    else
      let l ← l.takeToken
      l.run fuel

end Lexer

/-- The tokens of a text; none when it is malformed. -/
def tokensOf (s : String) : Option (List Token) :=
  if s.toList.all isAllowed then (Lexer.start (Cursor.ofString s)).run (s.length + 2) else none

end LoadClients.Yaml

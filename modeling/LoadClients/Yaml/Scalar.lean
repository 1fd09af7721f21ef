import LoadClients.Text.Digits
import LoadClients.Yaml.Cursor

/-!
The text of scalars: plain, quoted, and in blocks. Line breaks inside plain and quoted scalars are
folded: a single one becomes a blank, and of several all but the first are kept.
-/

namespace LoadClients.Yaml

inductive Style where
  | plain | single | double | literal | folded
deriving DecidableEq

/-- The white space between two words of a scalar. -/
structure Gap where
  white : List Char
  first : List Char
  further : List Char
  broken : Bool

namespace Gap

def none : Gap := ⟨[], [], [], false⟩

/-- The gap after an escaped line break. -/
def escaped : Gap := ⟨[], [], [], true⟩

def text (g : Gap) : List Char :=
  if g.broken then
    if g.first = ['\n'] then (if g.further.isEmpty then [' '] else g.further)
    else g.first ++ g.further
  else g.white

end Gap

/-- Reads a gap. Tabs are refused in front of column `limit` once a line was broken. -/
def takeGap (limit : Int) : Nat → Gap → Cursor → Option (Gap × Cursor)
  | 0, _, _ => none
  | fuel + 1, g, c =>
    match c.rest with
    | [] => some (g, c)
    | x :: _ =>
      if isGap x then
        if g.broken then
          if x = '\t' ∧ (c.column : Int) < limit then none
          else takeGap limit fuel g (c.skip 1)
        else takeGap limit fuel { g with white := g.white ++ [x] } (c.skip 1)
      else if isBreak x then
        let (b, c) := c.takeBreak
        if g.broken then takeGap limit fuel { g with further := g.further ++ b } c
        else takeGap limit fuel ⟨[], b, [], true⟩ c
      else some (g, c)

def isFlowMark (c : Char) : Bool :=
  c == ',' || c == '[' || c == ']' || c == '\x7b' || c == '\x7d'

def endsPlain (flow : Bool) : List Char → Bool
  | [] => true
  | x :: rest => (x == ':' && endsWord rest) || (flow && isFlowMark x)

/-- A colon in front of a mark of the flow style is refused there. -/
def strayColon (flow : Bool) : List Char → Bool
  | ':' :: x :: _ => flow && (isFlowMark x || x == '?')
  | _ => false

/-- Reads a run of characters without white space. -/
def takePlainWord (flow : Bool) : Nat → List Char → Cursor → Option (List Char × Cursor)
  | 0, _, _ => none
  | fuel + 1, word, c =>
    if endsWord c.rest then some (word.reverse, c)
    else if strayColon flow c.rest then none
    else if endsPlain flow c.rest then some (word.reverse, c)
    else
      match c.rest with
      | x :: _ => takePlainWord flow fuel (x :: word) (c.skip 1)
      | [] => some (word.reverse, c)

/-- Reads a plain scalar on from a gap, and gives it reversed. Also says whether it ends after a
line break. -/
def takePlainFrom (flow : Bool) (limit : Int) :
    Nat → List Char → Gap → Cursor → Option (List Char × Bool × Cursor)
  | 0, _, _, _ => none
  | fuel + 1, text, g, c =>
    if c.atDocumentMark || c.rest.head? == some '#' then some (text, g.broken, c)
    else do
      let (word, c) ← takePlainWord flow c.bound [] c
      let (text, g) :=
        if word.isEmpty then (text, g) else ((g.text ++ word).reverse ++ text, Gap.none)
      match c.rest with
      | [] => some (text, g.broken, c)
      | x :: _ =>
        if isGapOrBreak x then
          let (g, c) ← takeGap limit c.bound g c
          if !flow && decide ((c.column : Int) < limit) then some (text, g.broken, c)
          else takePlainFrom flow limit fuel text g c
        else some (text, g.broken, c)

/-- A plain scalar inside a block of the given indentation. -/
def takePlain (flow : Bool) (indent : Int) (c : Cursor) : Option (List Char × Bool × Cursor) :=
  (takePlainFrom flow (indent + 1) c.bound [] Gap.none c).map fun r => (r.1.reverse, r.2)

/-- The character that an escape stands for, and its length after the backslash. -/
def escape? : List Char → Option (Char × Nat)
  | [] => none
  | e :: cs =>
    if e = 'x' then (Text.charOfCode? 2 cs).map (·, 3)
    else if e = 'u' then (Text.charOfCode? 4 cs).map (·, 5)
    else if e = 'U' then (Text.charOfCode? 8 cs).map (·, 9)
    else ([('0', '\x00'), ('a', '\x07'), ('b', '\x08'), ('t', '\t'), ('\t', '\t'), ('n', '\n'),
      ('v', '\x0b'), ('f', '\x0c'), ('r', '\r'), ('e', '\x1b'), (' ', ' '), ('"', '"'), ('/', '/'),
      ('\\', '\\'), ('N', '\x85'), ('_', '\xa0'), ('L', '\u2028'), ('P', '\u2029')].lookup e).map
        (·, 1)

/-- Reads up to white space, to the closing quote or to an escaped line break; says whether it was
the last. -/
def takeQuotedWord (single : Bool) : Nat → List Char → Cursor → Option (List Char × Bool × Cursor)
  | 0, _, _ => none
  | fuel + 1, word, c =>
    match c.rest with
    | [] => some (word.reverse, false, c)
    | x :: rest =>
      if isGapOrBreak x then some (word.reverse, false, c)
      else if single then
        if x = '\'' then
          match rest with
          | '\'' :: _ => takeQuotedWord single fuel ('\'' :: word) (c.skip 2)
          | _ => some (word.reverse, false, c)
        else takeQuotedWord single fuel (x :: word) (c.skip 1)
      else if x = '"' then some (word.reverse, false, c)
      else if x = '\\' then
        match rest with
        | y :: _ =>
          if isBreak y then some (word.reverse, true, (c.skip 1).skipBreak)
          else do
            let (e, n) ← escape? rest
            takeQuotedWord single fuel (e :: word) (c.skip (n + 1))
        | [] => none
      else takeQuotedWord single fuel (x :: word) (c.skip 1)

/-- Reads a quoted scalar on, and gives it reversed. -/
def takeQuotedFrom (single : Bool) : Nat → List Char → Cursor → Option (List Char × Cursor)
  | 0, _, _ => none
  | fuel + 1, text, c =>
    if c.atDocumentMark || c.rest.isEmpty then none
    else do
      let (word, broken, c) ← takeQuotedWord single c.bound [] c
      let text := word.reverse ++ text
      if !broken && c.rest.head? == some (if single then '\'' else '"') then some (text, c.skip 1)
      else
        let (g, c) ← takeGap 0 c.bound (if broken then Gap.escaped else Gap.none) c
        takeQuotedFrom single fuel (g.text.reverse ++ text) c

def takeQuoted (single : Bool) (c : Cursor) : Option (List Char × Cursor) :=
  (takeQuotedFrom single c.bound [] (c.skip 1)).map fun r => (r.1.reverse, r.2)

/-- Reads indentation and empty lines inside a block scalar; `indent` zero is one not known yet.
Gives the line breaks and the greatest column that was reached. -/
def takeEmptyLines (indent : Nat) :
    Nat → Nat → List Char → Cursor → Option (Nat × List Char × Cursor)
  | 0, _, _, _ => none
  | fuel + 1, widest, breaks, c =>
    let spaces := (c.take (· == ' ')).length
    let c := c.skip (if indent = 0 then spaces else min spaces (indent - c.column))
    let widest := max widest c.column
    match c.rest with
    | [] => some (widest, breaks, c)
    | x :: _ =>
      if x = '\t' ∧ (indent = 0 ∨ c.column < indent) then none
      else if isBreak x then
        let (b, c) := c.takeBreak
        takeEmptyLines indent fuel widest (breaks ++ b) c
      else some (widest, breaks, c)

def startsWithGap (cs : List Char) : Bool :=
  match cs with
  | [] => false
  | x :: _ => isGap x

/-- Reads the lines of a block scalar. Between two lines a break is folded when neither begins with
white space. Gives the reversed text, the last break, and the breaks after it. -/
def takeBlockLines (literal : Bool) (indent : Nat) :
    Nat → List Char → List Char → List Char → Bool → Cursor →
      Option (List Char × List Char × List Char × Cursor)
  | 0, _, _, _, _, _ => none
  | fuel + 1, text, last, further, gapBefore, c =>
    if c.column = indent ∧ c.rest ≠ [] then do
      let gapNow := startsWithGap c.rest
      let joint :=
        if !literal && last == ['\n'] && !gapBefore && !gapNow then
          (if further.isEmpty then [' '] else [])
        else last
      let line := c.take (!isBreak ·)
      let (b, c) := (c.skipWhile (!isBreak ·)).takeBreak
      let (_, breaks, c) ← takeEmptyLines indent c.bound 0 [] c
      let text := (joint ++ further ++ line).reverse ++ text
      takeBlockLines literal indent fuel text b breaks gapNow c
    else some (text, last, further, c)

/-- The marks in the head of a block scalar: what to do with its last breaks, and how deep it is
indented. -/
def takeBlockMarks (c : Cursor) : Option (Option Bool × Nat × Cursor) :=
  let chomp (c : Cursor) : Option Bool × Cursor :=
    match c.rest with
    | '+' :: _ => (some true, c.skip 1)
    | '-' :: _ => (some false, c.skip 1)
    | _ => (none, c)
  let depth (c : Cursor) : Option (Nat × Cursor) :=
    match c.rest with
    | x :: _ =>
      if x.isDigit then if x = '0' then none else some (x.toNat - '0'.toNat, c.skip 1)
      else some (0, c)
    | [] => some (0, c)
  match chomp c with
  | (some keep, c) => (depth c).map fun r => (some keep, r.1, r.2)
  | (none, c) => do
    let (n, c) ← depth c
    if n = 0 then some (none, 0, c)
    else
      let (keep, c) := chomp c
      some (keep, n, c)

/-- A block scalar from its mark on, inside a block of the given indentation. -/
def takeBlock (literal : Bool) (indent : Int) (c : Cursor) : Option (List Char × Cursor) := do
  let (keep, increment, c) ← takeBlockMarks (c.skip 1)
  let c := (c.skipWhile isGap).skipComment
  if !endsLine c.rest then none
  let c := c.skipBreak
  let wanted : Nat :=
    if increment = 0 then 0 else if 0 ≤ indent then indent.toNat + increment else increment
  let (widest, breaks, c) ← takeEmptyLines wanted c.bound 0 [] c
  let depth := if wanted = 0 then max (max widest (indent + 1).toNat) 1 else wanted
  let (text, last, further, c) ←
    takeBlockLines literal depth c.bound [] [] breaks false c
  let text := if keep = some false then text.reverse else text.reverse ++ last
  some ((if keep = some true then text ++ further else text), c)

end LoadClients.Yaml

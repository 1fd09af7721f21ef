/-!
A place in a YAML text, with what follows it. Tokens depend on the column and on the line in which
they stand.
-/

namespace LoadClients.Yaml

structure Cursor where
  rest : List Char
  index : Nat
  line : Nat
  column : Nat
  /-- more than the length of what follows; the loops that read a token end by it -/
  bound : Nat

/-- Characters that a text may hold. -/
def isAllowed (c : Char) : Bool :=
  let n := c.toNat
  n == 0x9 || n == 0xa || n == 0xd || (0x20 ≤ n && n ≤ 0x7e) || n == 0x85 ||
    (0xa0 ≤ n && n ≤ 0xd7ff) || (0xe000 ≤ n && n ≤ 0xfffd) || 0x10000 ≤ n

def isGap (c : Char) : Bool := c == ' ' || c == '\t'

def isBreak (c : Char) : Bool :=
  c == '\r' || c == '\n' || c == '\x85' || c == '\u2028' || c == '\u2029'

def isGapOrBreak (c : Char) : Bool := isGap c || isBreak c

/-- Characters of anchors, of tag handles and of directive names. -/
def isWordChar (c : Char) : Bool := c.isAlphanum || c == '_' || c == '-'

def endsWord : List Char → Bool
  | [] => true
  | c :: _ => isGapOrBreak c

def endsLine : List Char → Bool
  | [] => true
  | c :: _ => isBreak c

/-- Three equal marks that stand alone. -/
def isMarkOf (m : Char) : List Char → Bool
  | a :: b :: c :: rest => a == m && b == m && c == m && endsWord rest
  | _ => false

namespace Cursor

def ofString (s : String) : Cursor := ⟨s.toList, 0, 0, 0, s.length + 1⟩

/-- Goes on by characters that are no line breaks. -/
def skip (c : Cursor) (n : Nat) : Cursor :=
  { c with rest := c.rest.drop n, index := c.index + n, column := c.column + n }

def take (c : Cursor) (p : Char → Bool) : List Char := c.rest.takeWhile p

def skipWhile (c : Cursor) (p : Char → Bool) : Cursor :=
  let n := (c.take p).length
  { c with rest := c.rest.dropWhile p, index := c.index + n, column := c.column + n }

/-- Goes on to the next line behind so many characters. -/
def nextLine (c : Cursor) (rest : List Char) (n : Nat) : Cursor :=
  { c with rest := rest, index := c.index + n, line := c.line + 1, column := 0 }

/-- The line break at the cursor as it counts inside a scalar, and the cursor after it. -/
def takeBreak (c : Cursor) : List Char × Cursor :=
  match c.rest with
  | [] => ([], c)
  | '\r' :: '\n' :: rest => (['\n'], c.nextLine rest 2)
  | x :: rest =>
    if isBreak x then
      ((if x = '\u2028' ∨ x = '\u2029' then [x] else ['\n']), c.nextLine rest 1)
    else ([], c)

def skipBreak (c : Cursor) : Cursor := c.takeBreak.2

def skipComment (c : Cursor) : Cursor :=
  match c.rest with
  | '#' :: _ => c.skipWhile (!isBreak ·)
  | _ => c

/-- Begins a document, or ends one, at the start of a line. -/
def atDocumentMark (c : Cursor) : Bool :=
  c.column == 0 && (isMarkOf '-' c.rest || isMarkOf '.' c.rest)

end Cursor

end LoadClients.Yaml

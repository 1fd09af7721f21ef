import LoadClients.Text.Digits

/-! Quoted text in TOML: with escapes between double quotes, as it is between single ones. -/

namespace LoadClients.Toml

/-- Controls, save the tab, are not written out. -/
def isControl (c : Char) : Bool := (c.toNat < 0x20 && c != '\t') || c.toNat == 0x7f

def isSpace (c : Char) : Bool := c == ' ' || c == '\t'

def takeLineEnd : List Char → Option (List Char)
  | '\n' :: cs => some cs
  | '\r' :: '\n' :: cs => some cs
  | _ => none

def skipBlank : List Char → List Char
  | '\r' :: '\n' :: cs => skipBlank cs
  | c :: cs => if isSpace c || c == '\n' then skipBlank cs else c :: cs
  | [] => []

/-- The character that an escape stands for, and its length after the backslash. -/
def escape? : List Char → Option (Char × Nat)
  | [] => none
  | e :: cs =>
    if e = 'x' then (Text.charOfCode? 2 cs).map (·, 3)
    else if e = 'u' then (Text.charOfCode? 4 cs).map (·, 5)
    else if e = 'U' then (Text.charOfCode? 8 cs).map (·, 9)
    else ([('b', '\x08'), ('t', '\t'), ('n', '\n'), ('f', '\x0c'), ('r', '\r'), ('e', '\x1b'),
      ('"', '"'), ('\\', '\\')].lookup e).map (·, 1)

/-- The rest of a text on one line, up to its closing quote. -/
def takeLine (quote : Char) : Nat → List Char → List Char → Option (String × List Char)
  | 0, _, _ => none
  | _, _, [] => none
  | fuel + 1, read, c :: cs =>
    if c = quote then some (String.ofList read.reverse, cs)
    else if c = '\\' ∧ quote = '"' then do
      let (e, n) ← escape? cs
      takeLine quote fuel (e :: read) (cs.drop n)
    else if isControl c then none
    else takeLine quote fuel (c :: read) cs

/-- The line break that a backslash at the end of its line takes away, with the blanks around it. -/
def takeContinuation (cs : List Char) : Option (List Char) :=
  (takeLineEnd (cs.dropWhile isSpace)).map skipBlank

/-- The rest of a text on several lines. Up to two quotes may stand in front of the closing three.
-/
def takeLines (quote : Char) : Nat → List Char → List Char → Option (String × List Char)
  | 0, _, _ => none
  | _, _, [] => none
  | fuel + 1, read, c :: cs =>
    if c = quote then
      let quotes := 1 + (cs.takeWhile (· == quote)).length
      if quotes < 3 then takeLines quote fuel (c :: read) cs
      else
        let taken := min quotes 5
        some (String.ofList (read.reverse ++ List.replicate (taken - 3) quote), cs.drop (taken - 1))
    else if c = '\\' ∧ quote = '"' then
      match takeContinuation cs with
      | some cs => takeLines quote fuel read cs
      | none => do
        let (e, n) ← escape? cs
        takeLines quote fuel (e :: read) (cs.drop n)
    else
      match takeLineEnd (c :: cs) with
      | some cs => takeLines quote fuel ('\n' :: read) cs
      | none => if isControl c then none else takeLines quote fuel (c :: read) cs

def takeQuotedLine : List Char → Option (String × List Char)
  | '"' :: cs => takeLine '"' (cs.length + 1) [] cs
  | '\'' :: cs => takeLine '\'' (cs.length + 1) [] cs
  | _ => none

/-- A quoted text. A line break right after three opening quotes does not count. -/
def takeQuoted : List Char → Option (String × List Char)
  | '"' :: '"' :: '"' :: cs => takeLines '"' (cs.length + 1) [] ((takeLineEnd cs).getD cs)
  | '\'' :: '\'' :: '\'' :: cs => takeLines '\'' (cs.length + 1) [] ((takeLineEnd cs).getD cs)
  | cs => takeQuotedLine cs

end LoadClients.Toml

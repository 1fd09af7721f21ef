import LoadClients.Decimal.Layout
import LoadClients.Text.Quoted
import LoadClients.Value

/-!
Values as text. Inside lists and records everything is written compactly with quoted strings; a
value on its own is written as a script would show it, and as a literal its strings are quoted.
-/

namespace LoadClients.Value

def escapedChar (c : Char) : List Char :=
  if c = '"' then ['\\', '"']
  else if c = '\\' then ['\\', '\\']
  else if c = '\x08' then ['\\', 'b']
  else if c = '\x0c' then ['\\', 'f']
  else if c = '\n' then ['\\', 'n']
  else if c = '\r' then ['\\', 'r']
  else if c = '\t' then ['\\', 't']
  else if c.toNat < 0x20 then ['\\', 'u'] ++ Text.hexPadded 4 c.toNat
  else [c]

def escaped (s : String) : String :=
  String.ofList ('"' :: s.toList.flatMap escapedChar ++ ['"'])

def numberText (l : Layout) : Number → String
  | .integer n => toString n
  | .float x => l.render x

mutual

def compactText : Value → String
  | null => "null"
  | boolean b => if b then "true" else "false"
  | number n => numberText .compact n
  | text s => escaped s
  | list items => "[" ++ ",".intercalate (compactItems items) ++ "]"
  | record fields => "\x7b" ++ ",".intercalate (compactFields fields) ++ "\x7d"

def compactItems : List Value → List String
  | [] => []
  | v :: vs => compactText v :: compactItems vs

def compactFields : List (String × Value) → List String
  | [] => []
  | (k, v) :: fs => (escaped k ++ ":" ++ compactText v) :: compactFields fs

end

/-- A value on its own. A string is written raw, and a whole float without a point. -/
def plainText : Value → String
  | text s => s
  | number n => numberText .plain n
  | v => v.compactText

def doubleQuotes : List Char → List Char
  | [] => []
  | c :: cs => if c = '"' then '"' :: '"' :: doubleQuotes cs else c :: doubleQuotes cs

/-- A value as the default of an argument. Quotes inside a string are doubled. -/
def literal : Value → String
  | text s => String.ofList ('"' :: doubleQuotes s.toList ++ ['"'])
  | v => v.plainText

end LoadClients.Value

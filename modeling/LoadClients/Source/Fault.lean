/-!
Why a source text does not give a document: it is malformed, or what it says has the wrong shape
somewhere.
-/

namespace LoadClients

inductive Step where
  | key (k : String)
  | index (i : Nat)
  /-- a key that is no text -/
  | unnamed
deriving DecidableEq, Repr

inductive Problem where
  | missingField (name : String)
  | duplicateField (name : String)
  | wrongType (actual expected : String)
  | wrongText (text expected : String)
  | wrongLength (length : Nat) (record : String) (fields : Nat)
  | noVariant (choice : String)
  | outOfRange
  | tooDeep
  | taggedChoice
deriving DecidableEq, Repr

def Problem.message : Problem → String
  | missingField name => s!"missing field `{name}`"
  | duplicateField name => s!"duplicate field `{name}`"
  | wrongType actual expected => s!"invalid type: {actual}, expected {expected}"
  | wrongText text expected => s!"invalid value: string {text}, expected {expected}"
  | wrongLength length record fields =>
    s!"invalid length {length}, expected struct {record} with {fields} element" ++
      (if fields = 1 then "" else "s")
  | noVariant choice => s!"data did not match any variant of untagged enum {choice}"
  | outOfRange => "JSON number out of range"
  | tooDeep => "recursion limit exceeded"
  | taggedChoice => "untagged and internally tagged enums do not support enum input"

inductive Fault where
  | malformed
  | data (path : List Step) (problem : Problem)
deriving DecidableEq, Repr

def Step.text : Step → String
  | key k => k
  | index i => s!"[{i}]"
  | unnamed => "?"

/-- A path as text. Keys are joined by points, and an index stands in brackets. -/
def pathText : List Step → String
  | [] => "."
  | s :: rest =>
    s.text ++ String.join (rest.map fun t =>
      match t with
      | .index _ => t.text
      | _ => "." ++ t.text)

/-- A result of reading a part of a source. -/
abbrev Reading (α : Type) := Except Fault α

/-- A data fault below a step lies at that step. -/
def Fault.below (s : Step) : Fault → Fault
  | malformed => malformed
  | data path problem => data (s :: path) problem

def Reading.below {α : Type} (s : Step) : Reading α → Reading α
  | .ok a => .ok a
  | .error f => .error (f.below s)

def Reading.fail {α : Type} (p : Problem) : Reading α := .error (.data [] p)

end LoadClients

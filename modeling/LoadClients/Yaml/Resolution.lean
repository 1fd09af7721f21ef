import LoadClients.Decimal.Reader
import LoadClients.Source.Node
import LoadClients.Yaml.Scalar

/-!
What scalars stand for: a plain scalar by its text, and every scalar by the tag that it bears.
-/

namespace LoadClients.Yaml

def isNullWord (s : String) : Bool := ["~", "null", "Null", "NULL"].contains s

def flag? (s : String) : Option Bool :=
  if ["true", "True", "TRUE"].contains s then some true
  else if ["false", "False", "FALSE"].contains s then some false
  else none

def unsigned : List Char → List Char
  | '+' :: cs => cs
  | cs => cs

/-- Digits behind a leading zero are no number. -/
def isPadded (cs : List Char) : Bool :=
  match (DecimalText.takeSign cs).2 with
  | '0' :: c :: cs => (c :: cs).all Char.isDigit
  | _ => false

/-- The digits behind the mark of a base, or decimal digits. -/
def magnitude? : List Char → Option Nat
  | '0' :: 'x' :: cs => Text.numeral? 16 cs
  | '0' :: 'o' :: cs => Text.numeral? 8 cs
  | '0' :: 'b' :: cs => Text.numeral? 2 cs
  | cs => if isPadded cs then none else Text.numeral? 10 cs

/-- An integer as the narrowest of 64 bits and of 128 bits that holds it. -/
def integer? (cs : List Char) : Option Datum :=
  match cs with
  | '-' :: cs => do
    let n ← magnitude? cs
    if n ≤ Nat.pow 2 63 then some (.integer (-n))
    else if n ≤ Nat.pow 2 127 then some (.wide (-n))
    else none
  | cs => do
    let n ← magnitude? (unsigned cs)
    if n < Nat.pow 2 64 then some (.integer n)
    else if n < Nat.pow 2 128 then some (.wide n)
    else none

def infinityWords : List String := [".inf", ".Inf", ".INF"]

/-- A float. Decimals beyond all floats are none. -/
def float? (s : String) : Option Datum :=
  if infinityWords.any fun w => s == w || s == "+" ++ w then some (.infinite false)
  else if infinityWords.any fun w => s == "-" ++ w then some (.infinite true)
  else if [".nan", ".NaN", ".NAN"].contains s then some .notANumber
  else do
    let d ← DecimalText.read? s.toList
    let x ← d.float?
    some (.float x)

def plainDatum (s : String) : Datum :=
  if s.isEmpty || isNullWord s then .null
  else
    match flag? s, integer? s.toList with
    | some b, _ => .boolean b
    | none, some d => d
    | none, none => if isPadded s.toList then .text s else (float? s).getD (.text s)

inductive Tag where
  | boolean | integer | float | null
  /-- a tag of the document's own -/
  | own
  | other
deriving DecidableEq

def Tag.ofName (name : String) : Tag :=
  if name = "tag:yaml.org,2002:bool" then .boolean
  else if name = "tag:yaml.org,2002:int" then .integer
  else if name = "tag:yaml.org,2002:float" then .float
  else if name = "tag:yaml.org,2002:null" then .null
  else if name.startsWith "!" then .own
  else .other

def taggedDatum (tag : Tag) (plain : Bool) (s : String) : Datum :=
  match tag with
  | .boolean => ((flag? s).map Datum.boolean).getD (.mistagged s "a boolean")
  | .integer => (integer? s.toList).getD (.mistagged s "an integer")
  | .float => (float? s).getD (.mistagged s "a float")
  | .null => if isNullWord s then .null else .mistagged s "null"
  | .own => if plain then plainDatum s else .text s
  | .other => .text s

def readScalar (tag : Option Tag) (style : Style) (s : String) : Scalar where
  datum :=
    match tag with
    | some tag => taggedDatum tag (style = .plain) s
    | none => if style = .plain then plainDatum s else .text s
  text := some s
  flag := if style = .plain ∨ (style = .literal ∧ tag = some .boolean) then flag? s else none
  absent := style = .plain && (tag = some .null || (tag = none && (s.isEmpty || isNullWord s)))
  blank := style = .plain && s.isEmpty

def scalarNode (tag : Option Tag) (style : Style) (s : String) : Node :=
  let n := Node.scalar (readScalar tag style s)
  if tag = some .own then .variant n else n

def emptyNode : Node := scalarNode none .plain ""

end LoadClients.Yaml

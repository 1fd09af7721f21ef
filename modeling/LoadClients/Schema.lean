import LoadClients.Naming
import LoadClients.Value

/-!
Schemas, told apart by their keywords. A reference wins over all other keywords, then an
enumeration, then a composition, and last the type decides.
-/

namespace LoadClients

inductive TypeName where
  | string | integer | number | boolean | array | object | null
  /-- a name that is no type of the schema language -/
  | other (name : String)
deriving DecidableEq

def TypeName.ofString (s : String) : TypeName :=
  match s with
  | "string" => string
  | "integer" => integer
  | "number" => number
  | "boolean" => boolean
  | "array" => array
  | "object" => object
  | "null" => null
  | _ => other s

/-- Of several types the first that is not null counts. -/
def TypeName.choose (types : List TypeName) : Option TypeName :=
  (types.find? (· ≠ null)).or types.head?

/-- What is kept of the values that an object has under further keys. -/
structure MapValues where
  type : Option TypeName
  reference : Option String
deriving DecidableEq

inductive Schema where
  | reference (path : String)
  | enumeration (type : Option TypeName) (variants : List Value) (default : Option Value)
  | composition (parts : List Schema) (default : Option Value)
  | array (items : Option Schema) (default : Option Value)
  | object (properties : List (String × Schema)) (required : List String)
      (additional : Option MapValues) (default : Option Value)
  | primitive (type : Option TypeName) (default : Option Value)

/-- The keywords of a schema as they are given. -/
structure Keywords where
  reference : Option String := none
  type : Option TypeName := none
  default : Option Value := none
  properties : Option (List (String × Schema)) := none
  required : List String := []
  additional : Option MapValues := none
  items : Option Schema := none
  variants : Option (List Value) := none
  parts : Option (List Schema) := none

def Keywords.objectSchema (k : Keywords) : Schema :=
  .object (k.properties.getD []) k.required k.additional k.default

/-- The schema that the keywords make. Without a type, properties make an object. -/
def Schema.ofKeywords (k : Keywords) : Schema :=
  match k.reference, k.variants, k.parts, k.type with
  | some path, _, _, _ => .reference path
  | none, some variants, _, _ => .enumeration k.type variants k.default
  | none, none, some parts, _ => .composition parts k.default
  | none, none, none, some .array => .array k.items k.default
  | none, none, none, some .object => k.objectSchema
  | none, none, none, none =>
    if k.properties.isSome || k.additional.isSome then k.objectSchema
    else .primitive none k.default
  | none, none, none, some t => .primitive (some t) k.default

namespace Schema

/-- A schema without keywords takes any value. -/
def any : Schema := .primitive none none

instance : Inhabited Schema := ⟨any⟩

def defaultValue : Schema → Option Value
  | reference _ => none
  | enumeration _ _ d => d
  | composition _ d => d
  | array _ d => d
  | object _ _ _ d => d
  | primitive _ d => d

def path? : Schema → Option String
  | reference path => some path
  | _ => none

def isArray : Schema → Bool
  | array _ _ => true
  | _ => false

end Schema

/-- The script type of a simple value. -/
def TypeName.scriptName : Option TypeName → String
  | none => "any"
  | some object => "any"
  | some integer => "number"
  | some number => "number"
  | some string => "string"
  | some boolean => "boolean"
  | some null => "null"
  | some array => "any[]"
  | some (other name) => name

/-- The script type of a schema. References are not followed. -/
def Schema.typeName : Schema → String
  | .reference path => Naming.referenceName path
  | .array (some items) _ => items.typeName ++ "[]"
  | .array none _ => "any[]"
  | .enumeration type _ _ => TypeName.scriptName type
  | .primitive type _ => TypeName.scriptName type
  | .object _ _ _ _ => "any"
  | .composition _ _ => "any"

end LoadClients

import LoadClients.Schema
import LoadClients.Table
import LoadClients.Value.Text

/-! Type declarations for the schemas that a document shares. -/

namespace LoadClients

inductive Member where
  | property (name type : String) (optional : Bool)
  /-- any further key, with a string -/
  | index
deriving DecidableEq, Repr

def Member.source : Member → String
  | property name type optional => name ++ (if optional then "?" else "") ++ ": " ++ type ++ ";"
  | index => "[key: string]: string;"

inductive Declaration where
  | enumeration (name : String) (members : List String)
  | interface (name : String) (parents : List String) (members : List Member)
deriving DecidableEq, Repr

namespace Declaration

def name : Declaration → String
  | enumeration name _ => name
  | interface name _ _ => name

def source : Declaration → String
  | enumeration name members =>
    "export enum " ++ name ++ " \x7b\n" ++ ",\n".intercalate (members.map ("  " ++ ·)) ++ "\n\x7d"
  | interface name parents members =>
    "export interface " ++ name ++
      (if parents.isEmpty then "" else " extends " ++ ", ".intercalate parents) ++ " \x7b" ++
      String.join (members.map fun m => "\n  " ++ m.source) ++ "\n\x7d"

end Declaration

/-- What an object, or a part of a composition, gives to an interface. -/
structure Contribution where
  parents : List String
  members : List Member

/-- The properties are members. Further keys with strings are an index, and further keys with a
referenced type make that type a parent. -/
def Contribution.ofObject (properties : List (String × Schema)) (required : List String)
    (additional : Option MapValues) : Contribution :=
  let members := properties.map fun p => Member.property p.1 p.2.typeName (!required.contains p.1)
  match additional with
  | none => ⟨[], members⟩
  | some m =>
    if m.type = some .string then ⟨[], members ++ [.index]⟩
    else ⟨(m.reference.map Naming.referenceName).toList, members⟩

namespace Schema

/-- What the schema gives as an object; nothing when it is none. -/
def contribution : Schema → Contribution
  | object properties required additional _ => .ofObject properties required additional
  | _ => ⟨[], []⟩

/-- The declaration of a shared schema. The references of a composition are parents and come before
those of its other parts. -/
def declaration (name : String) : Schema → Declaration
  | enumeration _ variants _ => .enumeration name (variants.map Value.plainText)
  | composition parts _ =>
    .interface name
      ((parts.filterMap path?).map Naming.referenceName ++
        parts.flatMap fun p => p.contribution.parents)
      (parts.flatMap fun p => p.contribution.members)
  | s => .interface name s.contribution.parents s.contribution.members

end Schema

def declarations (schemas : Table String Schema) : List Declaration :=
  schemas.entries.map fun e => e.2.declaration e.1

def declarationsSource (schemas : Table String Schema) : String :=
  "\n\n".intercalate ((declarations schemas).map Declaration.source)

end LoadClients

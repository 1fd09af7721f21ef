import LoadClients.Decimal.Layout

/-!
What a source text says, as a tree in the order of the text. A tree is kept as far as the text could
be read: where it is malformed the tree ends, so that a problem in front of that place comes first.
-/

namespace LoadClients

inductive Datum where
  | null
  | boolean (b : Bool)
  | integer (n : Int)
  /-- an integer beyond 64 bits -/
  | wide (n : Int)
  | float (x : Binary64)
  | infinite (negative : Bool)
  | notANumber
  | text (s : String)
  /-- the text does not fit the type that its tag names -/
  | mistagged (s : String) (wanted : String)
deriving DecidableEq

/-- A scalar, and how much of it each kind of field takes. -/
structure Scalar where
  datum : Datum
  /-- what a text field reads -/
  text : Option String
  /-- what a boolean field reads -/
  flag : Option Bool
  /-- an optional field reads it as missing, unless the tag does not allow that -/
  absent : Bool
  /-- nothing is written here: a list or a map without entries -/
  blank : Bool
deriving DecidableEq

inductive Node where
  | scalar (s : Scalar)
  | list (items : List Node) (closed : Bool)
  | map (entries : List (Node × Node)) (closed : Bool)
  /-- a node under a tag of the document's own -/
  | variant (node : Node)
  /-- another place's content -/
  | sameAs (anchor : Nat)
  /-- well formed, but no value can be made of it -/
  | unreadable
  | malformed

structure Format where
  /-- what messages call a null -/
  nullName : String
  /-- how messages write a float -/
  floatLayout : Layout
  /-- a record may be given as the list of its fields -/
  listsAsRecords : Bool
  /-- a number as a key names the field at that place -/
  numberedFields : Bool
  /-- how deep lists and maps may nest -/
  depth : Nat
  /-- deeper nesting makes a text malformed -/
  strictDepth : Bool

structure Source where
  format : Format
  root : Node
  anchors : List (Nat × Node)

namespace Datum

/-- The scalar that holds nothing but the datum. -/
def bare (d : Datum) : Scalar where
  datum := d
  text := match d with
    | text s => some s
    | _ => none
  flag := match d with
    | boolean b => some b
    | _ => none
  absent := d == null
  blank := false

end Datum

namespace Node

mutual

def sound : Node → Bool
  | scalar _ => true
  | list items closed => soundItems items && closed
  | map entries closed => soundEntries entries && closed
  | variant n => n.sound
  | sameAs _ => true
  | unreadable => true
  | malformed => false

def soundItems : List Node → Bool
  | [] => true
  | n :: ns => n.sound && soundItems ns

def soundEntries : List (Node × Node) → Bool
  | [] => true
  | (k, v) :: es => k.sound && v.sound && soundEntries es

end

end Node

/-- The node itself, or the content that it stands for. -/
def Source.resolve (src : Source) : Node → Node
  | .sameAs a => (src.anchors.lookup a).getD .malformed
  | n => n

/-- The source behind a node that was read in full: nothing in it depends on how it was written. -/
def Source.buffered (src : Source) : Source :=
  { src with format := { src.format with listsAsRecords := true, numberedFields := true } }

end LoadClients

import LoadClients.Source.Field
import LoadClients.Value

/-! Reading a node in full: as a value, or as content whose shape is decided only afterwards. -/

namespace LoadClients.Source

/-- The step to the value under a key, as far as the key has a plain text. -/
def keyStep : Node → Step
  | .scalar s =>
    match s.datum with
    | .text t => .key t
    | .integer n => .key (toString n)
    | .wide n => .key (toString n)
    | .boolean b => .key (if b then "true" else "false")
    | _ => .unnamed
  | _ => .unnamed

/-- Reads a node in full. Every scalar is left as what it stands for, however it was written. -/
def readContent (src : Source) : Nat → Node → Reading Node
  | depth, n =>
    match src.resolve n with
    | .scalar s =>
      match s.datum with
      | .wide _ => src.mismatch "any value" (.scalar s)
      | .mistagged _ _ => src.mismatch "any value" (.scalar s)
      | d => .ok (.scalar d.bare)
    | .list ns closed =>
      match depth with
      | 0 => src.tooDeep
      | depth + 1 => do
        let ns ← readItems (fun n => readContent src depth n) 0 ns
        closing closed (.list ns true)
    | .map es closed =>
      match depth with
      | 0 => src.tooDeep
      | depth + 1 => do
        let es ← es.mapM fun e => do
          let step := keyStep (src.resolve e.1)
          let k ← Reading.below step (readContent src depth e.1)
          let v ← Reading.below step (readContent src depth e.2)
          pure (k, v)
        closing closed (.map es true)
    | .variant _ => .fail .taggedChoice
    | .sameAs _ | .unreadable | .malformed => .error .malformed

def readFieldsOfValue (src : Source) (read : Node → Reading Value) :
    String → List (String × Value) → List (Node × Node) → Reading (List (String × Value))
  | _, fields, [] => .ok fields
  | expected, fields, (k, v) :: es => do
    let key ← src.readKey expected k
    let a ← Reading.below (.key key) (read v)
    src.readFieldsOfValue read "a string" (putEntry key a fields) es

/-- Reads a value. What is no number counts as null. -/
def readValue (src : Source) : Nat → Node → Reading Value
  | depth, n =>
    match src.resolve n with
    | .scalar s =>
      match s.datum with
      | .null => .ok .null
      | .boolean b => .ok (.boolean b)
      | .integer i => .ok (.number (.integer i))
      | .wide _ => .fail .outOfRange
      | .float x => .ok (.number (.float x))
      | .infinite _ | .notANumber => .ok .null
      | .text t => .ok (.text t)
      | .mistagged _ _ => src.mismatch "any valid JSON value" (.scalar s)
    | .list ns closed =>
      match depth with
      | 0 => src.tooDeep
      | depth + 1 => do
        let vs ← readItems (fun n => readValue src depth n) 0 ns
        closing closed (.list vs)
    | .map es closed =>
      match depth with
      | 0 => src.tooDeep
      | depth + 1 => do
        let fields ← src.readFieldsOfValue (fun n => readValue src depth n) "a string key" [] es
        closing closed (.record fields)
    | .variant _ => .fail (.wrongType "enum" "any valid JSON value")
    | .sameAs _ | .unreadable | .malformed => .error .malformed

end LoadClients.Source

/-! Case mappings of single characters. -/

namespace LoadClients.Text

/-- Every `step`-th code point from `first` to `last` is moved by `shift`. -/
structure Run where
  first : Nat
  last : Nat
  step : Nat
  shift : Int

def Run.image? (r : Run) (n : Nat) : Option Nat :=
  if r.first ≤ n ∧ n ≤ r.last ∧ (n - r.first) % r.step = 0 then some (n + r.shift).toNat else none

structure Mapping where
  runs : List Run
  expansions : List (Nat × List Nat)

/-- A character that the mapping does not mention stays as it is. -/
def Mapping.apply (m : Mapping) (c : Char) : List Char :=
  match m.expansions.lookup c.toNat with
  | some ns => ns.map Char.ofNat
  | none =>
    match m.runs.findSome? (·.image? c.toNat) with
    | some n => [Char.ofNat n]
    | none => [c]

end LoadClients.Text

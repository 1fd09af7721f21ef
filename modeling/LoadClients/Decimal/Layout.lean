import LoadClients.Decimal.Shortest

/-! How the digits of a number are laid out as text. -/

namespace LoadClients

structure Layout where
  /-- numbers whose leading digit stands at this power of ten are written without an exponent -/
  positional : Int → Bool
  /-- a whole number ends in `.0` -/
  pointZero : Bool
  /-- of two equally near decimals the greater one is taken -/
  tieUp : Bool

namespace Layout

/-- All digits are written out, and a whole number has no point. -/
def plain : Layout := ⟨fun _ => true, false, true⟩

/-- All digits are written out, and a whole number ends in `.0`. -/
def pointed : Layout := ⟨fun _ => true, true, true⟩

/-- From `10 ^ 16` on and below `10 ^ -5` a signed exponent is written. -/
def compact : Layout := ⟨fun e => decide (-5 ≤ e ∧ e < 16), true, false⟩

/-- A point before the last `places` digits, and zeros in front as needed. -/
def pointAt (places : Nat) (ds : List Char) : List Char :=
  let ds := List.replicate (places + 1 - ds.length) '0' ++ ds
  ds.take (ds.length - places) ++ '.' :: ds.drop (ds.length - places)

def positionalText (l : Layout) (ds : List Char) (e : Int) : List Char :=
  if 0 ≤ e then ds ++ List.replicate e.toNat '0' ++ (if l.pointZero then ['.', '0'] else [])
  else pointAt (-e).toNat ds

def scientificText (ds : List Char) (order : Int) : List Char :=
  (match ds with
    | [] => []
    | [d] => [d]
    | d :: rest => d :: '.' :: rest) ++
  ['e', if order < 0 then '-' else '+'] ++ Nat.toDigits 10 order.natAbs

def render (l : Layout) (x : Binary64) : String :=
  let d := Decimal.shortest l.tieUp x
  let ds := Nat.toDigits 10 d.digits
  let order := d.exponent + (ds.length - 1)
  String.ofList ((if x.negative then ['-'] else []) ++
    if l.positional order then l.positionalText ds d.exponent else scientificText ds order)

end Layout

end LoadClients

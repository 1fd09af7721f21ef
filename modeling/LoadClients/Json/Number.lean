import LoadClients.Source.Node
import LoadClients.Text.Digits

/-!
The numbers of JSON texts. A number is an integer where it has neither fraction nor exponent and
fits 64 bits. All others are floats: the leading digits that fit 64 bits are rounded first, and
the result of the scaling by a power of ten is rounded again.
-/

namespace LoadClients.Json

structure NumberText where
  negative : Bool
  whole : List Char
  fraction : Option (List Char)
  /-- a negative exponent, and its digits -/
  exponent : Option (Bool × List Char)

def takeDigits (cs : List Char) : Option (List Char × List Char) :=
  match cs.takeWhile Char.isDigit with
  | [] => none
  | d :: ds => some (d :: ds, cs.dropWhile Char.isDigit)

/-- A number at the front of a text. A leading zero stands alone, and digits follow a point and an
exponent mark. -/
def takeNumber (cs : List Char) : Option (NumberText × List Char) := do
  let (negative, cs) := match cs with
    | '-' :: rest => (true, rest)
    | _ => (false, cs)
  let (whole, cs) ← takeDigits cs
  if whole.head? = some '0' ∧ whole.length ≠ 1 then none
  let (fraction, cs) ← match cs with
    | '.' :: rest => (takeDigits rest).map fun r => (some r.1, r.2)
    | _ => some (none, cs)
  let signed (rest : List Char) : Option (Option (Bool × List Char) × List Char) :=
    match rest with
    | '+' :: ds => (takeDigits ds).map fun r => (some (false, r.1), r.2)
    | '-' :: ds => (takeDigits ds).map fun r => (some (true, r.1), r.2)
    | ds => (takeDigits ds).map fun r => (some (false, r.1), r.2)
  let (exponent, cs) ← match cs with
    | 'e' :: rest => signed rest
    | 'E' :: rest => signed rest
    | _ => some (none, cs)
  pure (⟨negative, whole, fraction, exponent⟩, cs)

def wordLimit : Nat := Nat.pow 2 64

/-- Takes digits into a significand as long as it fits 64 bits; also says how many were left. -/
def significand : Nat → List Char → Nat × Nat
  | n, [] => (n, 0)
  | n, d :: ds =>
    let m := 10 * n + Text.decimal [d]
    if m < wordLimit then significand m ds else (n, ds.length + 1)

def powerOfTen (e : Nat) : Binary64 := (Binary64.ofScientific 1 e).getD Binary64.zero

/-- The product `x * 10 ^ e` by steps of which each is rounded; none when it is too large. -/
def scaled : Nat → Binary64 → Int → Option Binary64
  | 0, x, _ => some x
  | steps + 1, x, e =>
    if e.natAbs ≤ 308 then
      if 0 ≤ e then x.mul (powerOfTen e.natAbs) else x.div (powerOfTen e.natAbs)
    else if x.mantissa = 0 then some x
    else if 0 ≤ e then none
    else (x.div (powerOfTen 308)).bind fun y => scaled steps y (e + 308)

def NumberText.float (t : NumberText) : Option Binary64 := do
  let (n, dropped) := significand 0 t.whole
  let fraction := t.fraction.getD []
  let (n, left) := significand n fraction
  let e : Int := (dropped : Int) - (fraction.length - left : Nat)
  let e := match t.exponent with
    | some (true, ds) => e - Text.decimal ds
    | some (false, ds) => e + Text.decimal ds
    | none => e
  let x ← Binary64.ofNat n
  let y ← scaled 8 x e
  pure (if t.negative then y.neg else y)

/-- What the number stands for; none when it is beyond all floats. -/
def NumberText.datum (t : NumberText) : Option Datum :=
  let n := Text.decimal t.whole
  let float := t.float.map Datum.float
  match t.fraction, t.exponent with
  | none, none =>
    if t.negative then
      if n ≠ 0 ∧ n ≤ Nat.pow 2 63 then some (.integer (-(n : Int))) else float
    else if n < wordLimit then some (.integer n)
    else float
  | _, _ => float

end LoadClients.Json

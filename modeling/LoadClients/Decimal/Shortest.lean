import LoadClients.Decimal.Binary64

/-!
The fewest decimal digits that identify a binary number: of all decimals that round to it, one with
the fewest digits, and of those the nearest.
-/

namespace LoadClients

/-- The number `digits * 10 ^ exponent`. -/
structure Decimal where
  digits : Nat
  exponent : Int
deriving DecidableEq, Repr

namespace Decimal

/-- Compares the decimal with `b * 2 ^ p`. -/
def compareBinary (d : Decimal) (b : Nat) (p : Int) : Ordering :=
  compare (d.digits * Nat.pow 10 d.exponent.toNat * Nat.pow 2 (-p).toNat)
    (b * Nat.pow 2 p.toNat * Nat.pow 10 (-d.exponent).toNat)

/-- The decimal rounds to the magnitude of `x`. The bounds lie halfway to the neighbours and belong
to an even mantissa; below a power of two the gap is half as wide. -/
def readsBack (d : Decimal) (x : Binary64) : Bool :=
  let narrow := x.mantissa = Nat.pow 2 52 && x.exponent ≠ Binary64.leastExponent
  let low := 4 * x.mantissa - (if narrow then 1 else 2)
  let high := 4 * x.mantissa + 2
  let even := x.mantissa % 2 = 0
  match d.compareBinary low (x.exponent - 2), d.compareBinary high (x.exponent - 2) with
  | .gt, .lt => true
  | .eq, .lt => even
  | .gt, .eq => even
  | _, _ => false

/-- The least `k` with the quotient below `10 ^ k`. -/
def decimalOrder (num den : Nat) : Int :=
  if den ≤ num then (Nat.toDigits 10 (num / den)).length
  else
    let d := (Nat.toDigits 10 (den / num)).length - 1
    if den ≤ Nat.pow 10 d * num then 1 - (d : Int) else -(d : Int)

def dropZeros : Nat → Decimal → Decimal
  | 0, d => d
  | fuel + 1, d =>
    if d.digits ≠ 0 ∧ d.digits % 10 = 0 then dropZeros fuel ⟨d.digits / 10, d.exponent + 1⟩ else d

/-- The better of the two neighbours of the quotient on the grid of `10 ^ e`, if any reads back. -/
def onGrid (tieUp : Bool) (x : Binary64) (e : Int) : Option Decimal :=
  let r := x.ratio
  let num := r.1 * Nat.pow 10 (-e).toNat
  let den := r.2 * Nat.pow 10 e.toNat
  let a : Decimal := ⟨num / den, e⟩
  let b : Decimal := ⟨num / den + 1, e⟩
  match a.readsBack x, b.readsBack x with
  | true, false => some a
  | false, true => some b
  | false, false => none
  | true, true =>
    let t := 2 * (num % den)
    some (if t < den then a else if den < t then b
      else if tieUp then b else if a.digits % 2 = 0 then a else b)

/-- The shortest decimal for a magnitude. Between two that are equally near, `tieUp` takes the
greater one, and else the one with an even last digit is taken. -/
def shortest (tieUp : Bool) (x : Binary64) : Decimal :=
  if x.mantissa = 0 then ⟨0, 0⟩
  else
    let r := x.ratio
    let k := decimalOrder r.1 r.2
    let exact : Decimal :=
      ⟨x.mantissa * Nat.pow 2 x.exponent.toNat * Nat.pow 5 (-x.exponent).toNat, min x.exponent 0⟩
    let d := ((List.range 17).findSome? fun (n : Nat) => onGrid tieUp x (k - (n + 1))).getD exact
    dropZeros 800 d

end Decimal

end LoadClients

/-!
Binary floating point numbers of 64 bits, without infinities, and the rounding of exact quotients to
them: to the nearest, a tie to the even mantissa.
-/

namespace LoadClients

/-- The number `mantissa * 2 ^ exponent`, below `2 ^ 53` in the mantissa, and with the greatest
mantissa that an exponent of at least `-1074` allows. -/
structure Binary64 where
  negative : Bool
  mantissa : Nat
  exponent : Int
deriving DecidableEq, Repr

namespace Binary64

def leastExponent : Int := -1074

def greatestExponent : Int := 971

def zero : Binary64 := ⟨false, 0, leastExponent⟩

def neg (x : Binary64) : Binary64 := { x with negative := !x.negative }

/-- The quotient rounded to an integer, a tie to the even one. -/
def roundDiv (num den : Nat) : Nat :=
  let q := num / den
  let r := 2 * (num % den)
  if r < den then q else if den < r then q + 1 else if q % 2 = 0 then q else q + 1

/-- The terms `num * 2 ^ e` and `den` as a quotient of naturals. -/
def scale (num den : Nat) (e : Int) : Nat × Nat :=
  (num * Nat.pow 2 e.toNat, den * Nat.pow 2 (-e).toNat)

/-- The exponent of the greatest power of two that is not above the quotient. -/
def binaryOrder (num den : Nat) : Int :=
  let l : Int := (num.log2 : Int) - den.log2
  let s := scale num den (-l)
  if s.2 ≤ s.1 then l else l - 1

/-- The quotient rounded; none when it is too large. -/
def ofRatio (num den : Nat) : Option Binary64 :=
  if num = 0 then some zero
  else
    let q := max (binaryOrder num den - 52) leastExponent
    let s := scale num den (-q)
    let m := roundDiv s.1 s.2
    let r : Binary64 := if m = Nat.pow 2 53 then ⟨false, Nat.pow 2 52, q + 1⟩ else ⟨false, m, q⟩
    if greatestExponent < r.exponent then none else some r

def ratio (x : Binary64) : Nat × Nat := scale x.mantissa 1 x.exponent

def ofNat (n : Nat) : Option Binary64 := ofRatio n 1

/-- The number `digits * 10 ^ e` rounded; none when it is too large. -/
def ofScientific (digits : Nat) (e : Int) : Option Binary64 :=
  if digits = 0 then some zero
  else
    let order : Int := (Nat.toDigits 10 digits).length + e
    if 310 < order then none
    else if order < -400 then some zero
    else ofRatio (digits * Nat.pow 10 e.toNat) (Nat.pow 10 (-e).toNat)

def mul (x y : Binary64) : Option Binary64 :=
  let a := x.ratio
  let b := y.ratio
  ofRatio (a.1 * b.1) (a.2 * b.2)

def div (x y : Binary64) : Option Binary64 :=
  let a := x.ratio
  let b := y.ratio
  ofRatio (a.1 * b.2) (a.2 * b.1)

end Binary64

end LoadClients

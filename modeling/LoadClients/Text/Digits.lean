/-! Numbers from their digits. -/

namespace LoadClients.Text

def hexValue? (c : Char) : Option Nat :=
  if c.isDigit then some (c.toNat - '0'.toNat)
  else if 'a' ≤ c ∧ c ≤ 'f' then some (c.toNat - 'a'.toNat + 10)
  else if 'A' ≤ c ∧ c ≤ 'F' then some (c.toNat - 'A'.toNat + 10)
  else none

/-- The number that digits of a base up to sixteen write, on from `n`. -/
def numeralFrom? (base : Nat) : Nat → List Char → Option Nat
  | n, [] => some n
  | n, c :: cs => do
    let d ← hexValue? c
    if d < base then numeralFrom? base (base * n + d) cs else none

/-- The number that one or more digits of a base up to sixteen write. -/
def numeral? (base : Nat) (cs : List Char) : Option Nat :=
  if cs.isEmpty then none else numeralFrom? base 0 cs

def decimal (ds : List Char) : Nat := ds.foldl (fun n c => 10 * n + (c.toNat - '0'.toNat)) 0

/-- The character at the front of a text whose code so many hexadecimal digits write. -/
def charOfCode? (digits : Nat) (cs : List Char) : Option Char := do
  if cs.length < digits then none
  let n ← numeral? 16 (cs.take digits)
  if (0xd800 ≤ n ∧ n ≤ 0xdfff) ∨ 0x10ffff < n then none else some (Char.ofNat n)

end LoadClients.Text

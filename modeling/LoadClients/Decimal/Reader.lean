import LoadClients.Decimal.Binary64
import LoadClients.Text.Digits

/-! Reading decimals: digits around a point, and an exponent. -/

namespace LoadClients

structure DecimalText where
  negative : Bool
  whole : List Char
  fraction : List Char
  exponent : Int

namespace DecimalText

def takeSign : List Char → Bool × List Char
  | '-' :: cs => (true, cs)
  | '+' :: cs => (false, cs)
  | cs => (false, cs)

def readExponent : List Char → Option Int
  | [] => some 0
  | e :: cs =>
    if e = 'e' ∨ e = 'E' then
      let (negative, ds) := takeSign cs
      if ds.isEmpty || !ds.all Char.isDigit then none
      else some (if negative then -(Text.decimal ds : Int) else Text.decimal ds)
    else none

/-- Reads a text as a decimal. A digit stands in front of the point or after it. -/
def read? (cs : List Char) : Option DecimalText := do
  let (negative, cs) := takeSign cs
  let whole := cs.takeWhile Char.isDigit
  let cs := cs.dropWhile Char.isDigit
  let (fraction, cs) := match cs with
    | '.' :: rest => (rest.takeWhile Char.isDigit, rest.dropWhile Char.isDigit)
    | _ => ([], cs)
  if whole.isEmpty && fraction.isEmpty then none
  let e ← readExponent cs
  some ⟨negative, whole, fraction, e⟩

/-- The nearest float; none when the decimal is beyond all of them. -/
def float? (d : DecimalText) : Option Binary64 :=
  let digits := Text.decimal (d.whole ++ d.fraction)
  let x := Binary64.ofScientific digits (d.exponent - d.fraction.length)
  if d.negative then x.map Binary64.neg else x

end DecimalText

end LoadClients

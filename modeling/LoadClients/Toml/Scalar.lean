import LoadClients.Decimal.Reader
import LoadClients.Text.Split

/-! Which bare words are values in TOML: flags, numbers, dates and times. -/

namespace LoadClients.Toml

/-- The digits of a base in groups between underscores. -/
def ungroup? (base : Nat) (cs : List Char) : Option (List Char) :=
  let groups := Text.splitWhere (· == '_') cs
  if groups.all fun g => (Text.numeral? base g).isSome then some groups.flatten else none

def isInteger (cs : List Char) : Bool :=
  let within (base : Nat) (ds : List Char) : Bool :=
    match (ungroup? base ds).bind (Text.numeral? base) with
    | some n => n < Nat.pow 2 128
    | none => false
  match cs with
  | '0' :: 'x' :: ds => within 16 ds
  | '0' :: 'o' :: ds => within 8 ds
  | '0' :: 'b' :: ds => within 2 ds
  | _ =>
    let (negative, ds) := DecimalText.takeSign cs
    match ungroup? 10 ds with
    | some digits =>
      let n := Text.decimal digits
      (ds.head? != some '0' || ds.length == 1) &&
        (if negative then n ≤ Nat.pow 2 127 else n < Nat.pow 2 128)
    | none => false

/-- A decimal with a point or an exponent, or one of the words for what is no finite number. -/
def isFloat (cs : List Char) : Bool :=
  let ds := (DecimalText.takeSign cs).2
  let isMark (c : Char) : Bool := c == 'e' || c == 'E'
  let mantissa := ds.takeWhile (!isMark ·)
  let exponent := ds.dropWhile (!isMark ·)
  let whole := mantissa.takeWhile (· != '.')
  let fraction := mantissa.dropWhile (· != '.')
  let isWhole := (ungroup? 10 whole).isSome && (whole.head? != some '0' || whole.length == 1)
  let isFraction := match fraction with
    | [] => true
    | _ :: fs => (ungroup? 10 fs).isSome
  let isExponent := match exponent with
    | [] => true
    | _ :: es => (ungroup? 10 (DecimalText.takeSign es).2).isSome
  let isFinite := ((DecimalText.read? (cs.filter (· != '_'))).bind DecimalText.float?).isSome
  ds == ['i', 'n', 'f'] || ds == ['n', 'a', 'n'] ||
    (isWhole && isFraction && isExponent && !(fraction.isEmpty && exponent.isEmpty) && isFinite)

def takeDigits (count : Nat) (cs : List Char) : Option (Nat × List Char) :=
  let ds := cs.take count
  if ds.length = count ∧ ds.all Char.isDigit then some (Text.decimal ds, cs.drop count) else none

def takeMark (mark : Char) : List Char → Option (List Char)
  | c :: cs => if c = mark then some cs else none
  | [] => none

def daysIn (year month : Nat) : Nat :=
  if month = 2 then
    if year % 4 = 0 ∧ (year % 100 ≠ 0 ∨ year % 400 = 0) then 29 else 28
  else if [4, 6, 9, 11].contains month then 30
  else 31

def takeDate (cs : List Char) : Option (List Char) := do
  let (year, cs) ← takeDigits 4 cs
  let (month, cs) ← takeDigits 2 (← takeMark '-' cs)
  let (day, cs) ← takeDigits 2 (← takeMark '-' cs)
  if 1 ≤ month ∧ month ≤ 12 ∧ 1 ≤ day ∧ day ≤ daysIn year month then some cs else none

def takeSeconds : List Char → Option (List Char)
  | ':' :: cs => do
    let (second, cs) ← takeDigits 2 cs
    if 60 < second then none
    match cs with
    | '.' :: fs =>
      if (fs.takeWhile Char.isDigit).isEmpty then none else some (fs.dropWhile Char.isDigit)
    | _ => some cs
  | cs => some cs

def takeTime (cs : List Char) : Option (List Char) := do
  let (hour, cs) ← takeDigits 2 cs
  let (minute, cs) ← takeDigits 2 (← takeMark ':' cs)
  if 23 < hour ∨ 59 < minute then none
  takeSeconds cs

/-- The distance from universal time, or nothing. -/
def isOffset : List Char → Bool
  | [] => true
  | ['z'] => true
  | ['Z'] => true
  | c :: cs =>
    (c == '+' || c == '-') &&
      match takeTime cs with
      | some [] => cs.length == 5
      | _ => false

def isMoment (cs : List Char) : Bool :=
  match takeDate cs with
  | some [] => true
  | some (c :: rest) =>
    (c == 'T' || c == 't' || c == ' ') &&
      match takeTime rest with
      | some offset => isOffset offset
      | none => false
  | none =>
    match takeTime cs with
    | some rest => rest.isEmpty
    | none => false

def isFlag (cs : List Char) : Bool := cs == ['t', 'r', 'u', 'e'] || cs == ['f', 'a', 'l', 's', 'e']

def isScalar (cs : List Char) : Bool := isFlag cs || isInteger cs || isFloat cs || isMoment cs

def isWordChar (c : Char) : Bool :=
  c.isAlphanum || c == '+' || c == '-' || c == '_' || c == '.' || c == ':'

/-- Passes over a value that is a bare word. A blank may divide a date from its time. -/
def takeScalar (cs : List Char) : Option (List Char) :=
  let word := cs.takeWhile isWordChar
  let rest := cs.dropWhile isWordChar
  let (word, rest) := match takeDate word, rest with
    | some [], ' ' :: d :: more =>
      if d.isDigit then (word ++ ' ' :: (d :: more).takeWhile isWordChar, more.dropWhile isWordChar)
      else (word, rest)
    | _, _ => (word, rest)
  if isScalar word then some rest else none

end LoadClients.Toml

import LoadClients.Text.Blank
import LoadClients.Text.Digits

/-!
Version numbers of three parts, with marks for a release that is still to come and for a build.
-/

namespace LoadClients

structure Version where
  major : Nat
  minor : Nat
  patch : Nat
  /-- what stands after a hyphen -/
  release : String
  /-- what stands after a plus sign -/
  build : String
deriving DecidableEq, Repr

namespace Version

def text (v : Version) : String :=
  toString v.major ++ "." ++ toString v.minor ++ "." ++ toString v.patch ++
    (if v.release.isEmpty then "" else "-" ++ v.release) ++
    (if v.build.isEmpty then "" else "+" ++ v.build)

/-- Digits without a leading zero, unless zero is all. -/
def plainDigits (ds : List Char) : Bool := ds.head? != some '0' || ds.length == 1

/-- A number below `2 ^ 64` at the front of a text. -/
def takeNumber (cs : List Char) : Option (Nat × List Char) :=
  let ds := cs.takeWhile Char.isDigit
  let n := Text.decimal ds
  if ds.isEmpty || !plainDigits ds || decide (Nat.pow 2 64 ≤ n) then none
  else some (n, cs.dropWhile Char.isDigit)

def takePoint : List Char → Option (List Char)
  | '.' :: cs => some cs
  | _ => none

def isMark (c : Char) : Bool := c.isAlphanum || c == '-'

/-- Marks between points, none of them empty. -/
def areMarks (ok : List Char → Bool) : List Char → List Char → Bool
  | mark, [] => !mark.isEmpty && ok mark.reverse
  | mark, c :: cs =>
    if c = '.' then !mark.isEmpty && ok mark.reverse && areMarks ok [] cs
    else isMark c && areMarks ok (c :: mark) cs

/-- A mark of digits alone has no leading zero. -/
def releaseMark (mark : List Char) : Bool := !mark.all Char.isDigit || plainDigits mark

def parseChars (cs : List Char) : Option Version := do
  let (major, cs) ← takeNumber cs
  let cs ← takePoint cs
  let (minor, cs) ← takeNumber cs
  let cs ← takePoint cs
  let (patch, cs) ← takeNumber cs
  let (release, cs) ← match cs with
    | '-' :: cs =>
      let r := cs.takeWhile (· ≠ '+')
      if areMarks releaseMark [] r then some (r, cs.dropWhile (· ≠ '+')) else none
    | _ => some ([], cs)
  let build ← match cs with
    | '+' :: cs => if areMarks (fun _ => true) [] cs then some cs else none
    | [] => some []
    | _ => none
  pure ⟨major, minor, patch, String.ofList release, String.ofList build⟩

/-- The version that a text writes between white space. -/
def parse (s : String) : Option Version := parseChars (Text.trim s.toList)

end Version

end LoadClients

import LoadClients.Text.Case.Classes
import LoadClients.Text.Case.Tables

/-!
The lower case of a whole text. A capital sigma at the end of a word has a form of its own: it has a
cased character before it and none after it, where characters without influence are passed over.
-/

namespace LoadClients.Text

/-- The first character with influence is a cased one. -/
def facesCased (cs : List Char) : Bool :=
  match cs.dropWhile caseIgnorable.has with
  | [] => false
  | c :: _ => cased.has c

/-- The lower case of `cs`, which follows the characters `before`, the nearest first. -/
def lowerFrom (before : List Char) : List Char → List Char
  | [] => []
  | c :: cs =>
    (if c = 'Σ' then
        [if facesCased before && !facesCased cs then 'ς' else 'σ']
      else lowerMapping.apply c) ++ lowerFrom (c :: before) cs

def lower (cs : List Char) : List Char := lowerFrom [] cs

end LoadClients.Text

import LoadClients.Text.Blank
import LoadClients.Text.Case.Lower
import LoadClients.Text.Split

/-!
Names for clients, methods and arguments, made from the free text of a document.
-/

namespace LoadClients.Naming

open Text

def isSeparator (c : Char) : Bool := c == '-' || c == '_'

def splitWords (cs : List Char) : List (List Char) := splitWhere isSeparator cs

def capitalizeHead : List Char → List Char
  | [] => []
  | c :: cs => upperMapping.apply c ++ cs

def lowerHead : List Char → List Char
  | [] => []
  | c :: cs => lowerMapping.apply c ++ cs

/-- The first word, and the others capitalized. -/
def joinWords : List (List Char) → List Char
  | [] => []
  | w :: ws => w ++ ws.flatMap capitalizeHead

def camelChars (cs : List Char) : List Char :=
  if cs.any isSeparator then joinWords (splitWords (lower (trim cs))) else lowerHead cs

/-- A text with separators is put into lower case and its words are joined, each but the first with
a capital. A text without them keeps its capitals, save the first. -/
def camelCase (s : String) : String := String.ofList (camelChars s.toList)

def capitalize (s : String) : String := String.ofList (capitalizeHead s.toList)

def afterSlash (cs : List Char) : List Char := (cs.reverse.takeWhile (· ≠ '/')).reverse

/-- The name at the end of a reference. -/
def referenceName (s : String) : String := String.ofList (afterSlash s.toList)

end LoadClients.Naming

import LoadClients.Text.Split

/-! Paths as text: names between slashes. -/

namespace LoadClients.Path

/-- The names in a path. Two slashes in a row have the empty name between them. -/
def names (p : String) : List String := (Text.splitWhere (· == '/') p.toList).map String.ofList

def isAbsolute (p : String) : Bool := p.toList.head? == some '/'

def join (directory name : String) : String :=
  if isAbsolute name then name
  else if directory.isEmpty || directory.toList.getLast? == some '/' then directory ++ name
  else directory ++ "/" ++ name

/-- The name leads to the directory in which it stands. -/
def staysHere (name : String) : Bool := name == "" || name == "."

/-- The name at the end of a path, if it is one of its own. -/
def fileName? (p : String) : Option String :=
  match ((names p).filter (!staysHere ·)).getLast? with
  | some name => if name = ".." then none else some name
  | none => none

/-- What stands in front of the last point of a name and behind it. A point at the beginning is a
part of the name. -/
def splitExtension (name : List Char) : List Char × Option (List Char) :=
  let extension := (name.reverse.takeWhile (· ≠ '.')).reverse
  let stem := name.take (name.length - extension.length - 1)
  if stem.isEmpty then (name, none) else (stem, some extension)

def stem? (p : String) : Option String :=
  (fileName? p).map fun name => String.ofList (splitExtension name.toList).1

def extension? (p : String) : Option String :=
  (fileName? p).bind fun name => (splitExtension name.toList).2.map String.ofList

/-- Takes what does not lead on from the end of a reversed path. -/
def trimEnd : List Char → List Char
  | '/' :: c :: cs => trimEnd (c :: cs)
  | '.' :: '/' :: cs => if cs.isEmpty then ['/'] else trimEnd cs
  | cs => cs

/-- The directory of a name that was joined to it, without slashes at its end. -/
def directoryText (directory : String) : String :=
  String.ofList (trimEnd directory.toList.reverse).reverse

end LoadClients.Path

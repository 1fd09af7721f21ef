import LoadClients.Path
import LoadClients.Table

/-!
Files and directories, and where paths lead among them. The tree is one without links: an entry has a
single address, and a name leads to an entry of the directory it is looked up in and nowhere else. All
that is there may be read and written. What a path leads to through a symbolic link, and what a second
name of a file shows of a change to it, is not told here.
-/

namespace LoadClients

inductive Entry where
  | file (text : String)
  /-- a file that does not hold text -/
  | binary
  | directory
deriving DecidableEq, Repr

inductive Obstacle where
  | missing
  | notDirectory
  | isDirectory
  | nameTooLong
  | notText
  /-- no path is written like this -/
  | notPath
deriving DecidableEq, Repr

/-- The names that lead to an entry from the root. -/
abbrev Address := List String

structure FileTree where
  entries : Table Address Entry
  /-- where paths begin that are not absolute -/
  working : Address

namespace FileTree

/-- The root is always a directory. -/
def entry? (t : FileTree) (l : Address) : Option Entry :=
  if l = [] then some .directory else t.entries.find? l

def put (t : FileTree) (l : Address) (e : Entry) : FileTree :=
  { t with entries := t.entries.put l e }

/-- Where a name leads from a directory. -/
def follow (here : Address) (name : String) : Address :=
  if Path.staysHere name then here else if name = ".." then here.dropLast else here ++ [name]

/-- The greatest length of a name in bytes. -/
def nameLimit : Nat := 255

/-- Follows names. There has to be a directory wherever one goes on from. -/
def walk (t : FileTree) : Address → List String → Except Obstacle Address
  | here, [] => .ok here
  | here, name :: names =>
    match t.entry? here with
    | none => .error .missing
    | some .directory =>
      if nameLimit < name.utf8ByteSize then .error .nameTooLong else t.walk (follow here name) names
    | some _ => .error .notDirectory

/-- The length in bytes that a path stays below. -/
def pathLimit : Nat := 4096

/-- A text that is looked up as a path. No path holds the null character. -/
def isPath (path : String) : Bool :=
  path.utf8ByteSize < pathLimit && !path.toList.contains (Char.ofNat 0)

def start (t : FileTree) (path : String) : Address := if Path.isAbsolute path then [] else t.working

/-- Where a path leads. Nothing needs to be there. -/
def locate (t : FileTree) (path : String) : Except Obstacle Address :=
  if isPath path then t.walk (t.start path) (Path.names path) else .error .notPath

def read (t : FileTree) (path : String) : Except Obstacle String := do
  let l ← t.locate path
  match t.entry? l with
  | some (.file text) => .ok text
  | some .binary => .error .notText
  | some .directory => .error .isDirectory
  | none => .error .missing

def makeAlong (t : FileTree) : Address → List String → FileTree × Except Obstacle Unit
  | here, names =>
    let found := t.entry? here
    if found.all (· = .directory) then
      let t := if found.isSome then t else t.put here .directory
      match names with
      | [] => (t, .ok ())
      | name :: names =>
        if nameLimit < name.utf8ByteSize then (t, .error .nameTooLong)
        else t.makeAlong (follow here name) names
    else (t, .error .notDirectory)

/-- Makes a directory and those around it, as far as they are missing. -/
def makeDirectories (t : FileTree) (path : String) : FileTree × Except Obstacle Unit :=
  if isPath path then t.makeAlong (t.start path) (Path.names path) else (t, .error .notPath)

/-- Writes a file anew, or over the one that is there. -/
def write (t : FileTree) (path text : String) : FileTree × Except Obstacle Unit :=
  match t.locate path with
  | .error o => (t, .error o)
  | .ok l =>
    match t.entry? l with
    | some .directory => (t, .error .isDirectory)
    | _ => (t.put l (.file text), .ok ())

/-- The place of the working directory in a tree that knows of nothing around it. No path names
it. -/
def workingDirectory : Address := ["."]

def empty : FileTree := ⟨Table.empty.put workingDirectory .directory, workingDirectory⟩

/-- Adds a file by its path, or a directory by a path that ends in a slash. -/
def add (t : FileTree) (path text : String) : FileTree :=
  if path.toList.getLast? = some '/' then (t.makeDirectories path).1
  else
    let ls := (Path.names path).dropLast
    ((t.makeAlong t.working ls).1.write path text).1

/-- A working directory with files, and with directories where a path ends in a slash. -/
def ofFiles (files : List (String × String)) : FileTree :=
  files.foldl (fun t f => t.add f.1 f.2) empty

/-- The files below the working directory that an earlier tree does not have so. -/
def changesSince (t before : FileTree) : List (String × String) :=
  t.entries.entries.filterMap fun e =>
    match e.2 with
    | .file text =>
      if t.working.isPrefixOf e.1 && before.entry? e.1 != some e.2 then
        some ("/".intercalate (e.1.drop t.working.length), text)
      else none
    | _ => none

end FileTree

end LoadClients

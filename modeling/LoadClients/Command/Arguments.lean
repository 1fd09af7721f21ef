import LoadClients.Command

/-!
Reading a command line. Arguments are read in order, and the first that asks for help, or that is
not acceptable, ends the reading.
-/

namespace LoadClients

namespace Command

inductive Flag where
  | verbose | help | version | directory | basename
deriving DecidableEq, Repr

/-- Where an argument stands: in front of the name of the command, or behind it. -/
inductive Level where
  | top | codegen | validate
deriving DecidableEq, Repr

inductive Stop where
  /-- help, or the version, was asked for -/
  | shown
  | refused
deriving DecidableEq, Repr

namespace Level

def flags : Level → List Flag
  | top => [.verbose, .help, .version]
  | codegen => [.verbose, .help, .directory, .basename]
  | validate => [.verbose, .help]

def long? (l : Level) (name : String) : Option Flag := do
  let f ← [("verbose", Flag.verbose), ("help", .help), ("version", .version),
    ("output-dir", .directory), ("basename", .basename)].lookup name
  if l.flags.contains f then some f else none

def short? (l : Level) (letter : Char) : Option Flag := do
  let f ← [('v', Flag.verbose), ('h', .help), ('V', .version), ('o', .directory),
    ('b', .basename)].lookup letter
  if l.flags.contains f then some f else none

end Level

def Flag.takesValue (f : Flag) : Bool := f == .directory || f == .basename

inductive Argument where
  | long (name : String) (value : Option String)
  | short (letters : List Char)
  /-- no flags follow -/
  | divider
  | value (text : String)
deriving DecidableEq, Repr

/-- A hyphen alone is a value. -/
def Argument.ofText (a : String) : Argument :=
  match a.toList with
  | ['-', '-'] => .divider
  | '-' :: '-' :: cs =>
    match cs.dropWhile (· ≠ '=') with
    | _ :: text => .long (String.ofList (cs.takeWhile (· ≠ '='))) (some (String.ofList text))
    | [] => .long (String.ofList cs) none
  | '-' :: c :: cs => .short (c :: cs)
  | _ => .value a

/-- What was given so far. -/
structure Draft where
  verbose : Bool
  input : Option String
  directory : Option String
  basename : Option String

def Draft.empty : Draft := ⟨false, none, none, none⟩

namespace Draft

/-- Gives a flag its value. A flag is given once, and the path of a directory is not empty. -/
def set (d : Draft) (f : Flag) (value : String) : Except Stop Draft :=
  match f with
  | .directory =>
    if d.directory.isSome || value.isEmpty then .error .refused
    else .ok { d with directory := some value }
  | .basename =>
    if d.basename.isSome then .error .refused else .ok { d with basename := some value }
  | _ => .error .refused

def raise (d : Draft) (f : Flag) : Except Stop Draft :=
  match f with
  | .verbose => if d.verbose then .error .refused else .ok { d with verbose := true }
  | .help => .error .shown
  | .version => .error .shown
  | _ => .error .refused

/-- The one value that belongs to no flag is the input. -/
def place (d : Draft) (value : String) : Except Stop Draft :=
  if d.input.isSome || value.isEmpty then .error .refused else .ok { d with input := some value }

/-- Reads the letters of an argument. A flag that takes a value takes the letters after it, or else
waits for the next argument. -/
def takeLetters (l : Level) (d : Draft) : List Char → Except Stop (Draft × Option Flag)
  | [] => .ok (d, none)
  | c :: cs =>
    match l.short? c with
    | none => .error .refused
    | some f =>
      if f.takesValue then
        match cs with
        | [] => .ok (d, some f)
        | '=' :: value => (d.set f (String.ofList value)).map (·, none)
        | value => (d.set f (String.ofList value)).map (·, none)
      else do
        let d ← d.raise f
        takeLetters l d cs

/-- Reads an argument that begins with a hyphen; also gives the flag that waits for a value. -/
def takeFlags (l : Level) (d : Draft) : Argument → Except Stop (Draft × Option Flag)
  | .long name value =>
    match l.long? name with
    | none => .error .refused
    | some f =>
      match f.takesValue, value with
      | true, some value => (d.set f value).map (·, none)
      | true, none => .ok (d, some f)
      | false, some _ => .error .refused
      | false, none => (d.raise f).map (·, none)
  | .short letters => d.takeLetters l letters
  | _ => .error .refused

/-- Reads the arguments behind the name of a command, of which the first may be awaited by a flag.
-/
def takeAll (l : Level) : Option Flag → Draft → List String → Except Stop Draft
  | none, d, [] => .ok d
  | some _, _, [] => .error .refused
  | waiting, d, a :: as =>
    match Argument.ofText a, waiting with
    | .value value, some f => do
      let d ← d.set f value
      takeAll l none d as
    | _, some _ => .error .refused
    | .value value, none => do
      let d ← d.place value
      takeAll l none d as
    | .divider, none => as.foldlM place d
    | a, none => do
      let (d, waiting) ← d.takeFlags l a
      takeAll l waiting d as

end Draft

/-- Help on the names given, which are those of a command at most. -/
def help : List String → Stop
  | [] => .shown
  | [name] => if ["codegen", "validate", "help"].contains name then .shown else .refused
  | _ => .refused

/-- Where no directory is given, files go to the working directory. -/
def ofDraft (l : Level) (d : Draft) : Except Stop Command :=
  match l, d.input with
  | .codegen, some input => .ok (.codegen input (d.directory.getD ".") d.basename)
  | .validate, some input => .ok (.validate input)
  | _, _ => .error .refused

def takeCommand (l : Level) (verbose : Bool) (as : List String) : Except Stop Invocation := do
  let d ← Draft.empty.takeAll l none as
  let command ← ofDraft l d
  pure ⟨verbose || d.verbose, command⟩

/-- Reads arguments up to the name of the command, and then those of the command. -/
def takeTop : Draft → List String → Except Stop Invocation
  | _, [] => .error .refused
  | d, a :: as =>
    match Argument.ofText a with
    | .value "codegen" => takeCommand .codegen d.verbose as
    | .value "validate" => takeCommand .validate d.verbose as
    | .value "help" => .error (help as)
    | .value _ => .error .refused
    | .divider => .error .refused
    | a => do
      let (d, _) ← d.takeFlags .top a
      takeTop d as

end Command

def Invocation.ofArguments (as : List String) : Except Command.Stop Invocation :=
  Command.takeTop Command.Draft.empty as

end LoadClients

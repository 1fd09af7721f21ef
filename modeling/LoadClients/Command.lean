/-! What the command line can ask for, and how a run ends. -/

namespace LoadClients

inductive Command where
  /-- writes the modules for a document into a directory -/
  | codegen (input directory : String) (basename : Option String)
  /-- checks a document -/
  | validate (input : String)
deriving DecidableEq, Repr

/-- A command, and whether to tell each step. -/
structure Invocation where
  verbose : Bool
  command : Command
deriving DecidableEq, Repr

inductive Ending where
  | success
  | failed (message : String)
  /-- the command line, or the configuration that belongs to it, is not acceptable -/
  | refused
deriving DecidableEq, Repr

def Ending.exitCode : Ending → Nat
  | success => 0
  | failed _ => 1
  | refused => 2

def Ending.message? : Ending → Option String
  | failed message => some message
  | _ => none

end LoadClients

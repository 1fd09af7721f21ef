import LoadClients.Request
import LoadClients.Value.Text

/-!
The arguments of a client method, and their texts. A method is declared with one list of texts and
defined with another, and both are written side by side.
-/

namespace LoadClients

/-- An argument, and the text of the value that it has when it is left out. -/
structure Argument where
  name : String
  type : String
  required : Bool
  initial : Option String
deriving DecidableEq, Repr

namespace Argument

def typed (a : Argument) : String := a.name ++ (if a.required then ": " else "?: ") ++ a.type

def untyped (a : Argument) : String :=
  match a.initial with
  | some text => a.name ++ " = " ++ text
  | none => a.name

/-- The request options, the last argument of all methods. -/
def options : Argument := ⟨"params", "RefinedParams<RT> | null", false, some "undefined"⟩

end Argument

def Input.argument (i : Input) : Argument where
  name := i.binding
  type := i.parameter.schema.typeName
  required := i.parameter.required
  initial :=
    if i.parameter.required then none else i.parameter.schema.defaultValue.map Value.literal

def Body.argument (b : Body) : Argument :=
  ⟨b.payload.argumentName, b.payload.argumentType, true, none⟩

/-- The texts of arguments, as a method is declared with them and as it is defined with them. -/
structure ArgumentTexts where
  typed : List String
  untyped : List String

namespace ArgumentTexts

def empty : ArgumentTexts := ⟨[], []⟩

def push (texts : ArgumentTexts) (typed untyped : String) : ArgumentTexts :=
  ⟨texts.typed ++ [typed], texts.untyped ++ [untyped]⟩

def append (texts others : ArgumentTexts) : ArgumentTexts :=
  ⟨texts.typed ++ others.typed, texts.untyped ++ others.untyped⟩

end ArgumentTexts

/-- The texts of the inputs gone through so far, apart for those that must be given and those that
may be left out. -/
structure InputTexts where
  required : ArgumentTexts
  optional : ArgumentTexts

def InputTexts.add (texts : InputTexts) (i : Input) : InputTexts :=
  let type := i.parameter.schema.typeName
  if i.parameter.required then
    { texts with required := texts.required.push (i.binding ++ ": " ++ type) i.binding }
  else
    let untyped :=
      match i.parameter.schema.defaultValue with
      | some value => i.binding ++ " = " ++ value.literal
      | none => i.binding
    { texts with optional := texts.optional.push (i.binding ++ "?: " ++ type) untyped }

namespace Request

def requiredInputs (r : Request) : List Input := r.inputs.filter (·.parameter.required)

def optionalInputs (r : Request) : List Input := r.inputs.filter (!·.parameter.required)

/-- What must be given comes first, then the body, then what may be left out, and the options. The
texts of these arguments are those that a method is declared and defined with. -/
def arguments (r : Request) : List Argument :=
  r.requiredInputs.map Input.argument ++ (r.body.map Body.argument).toList ++
    r.optionalInputs.map Input.argument ++ [Argument.options]

/-- The texts of the arguments. The options are pushed to what may be left out, the body to what must
be given, and the two are put together last. -/
def argumentTexts (r : Request) : ArgumentTexts :=
  let inputs := r.inputs.foldl InputTexts.add ⟨.empty, .empty⟩
  let optional := inputs.optional.push "params?: RefinedParams<RT> | null" "params = undefined"
  let required :=
    match r.body with
    | some b =>
      inputs.required.push (b.payload.argumentName ++ ": " ++ b.payload.argumentType)
        b.payload.argumentName
    | none => inputs.required
  required.append optional

def typedArguments (r : Request) : List String := r.argumentTexts.typed

def untypedArguments (r : Request) : List String := r.argumentTexts.untyped

end Request

end LoadClients

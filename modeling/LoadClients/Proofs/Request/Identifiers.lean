import LoadClients.Proofs.Request.ArgumentTexts
import LoadClients.Proofs.Request.Faults
import Mathlib.Data.List.Forall2

/-!
The identifiers that a method declares. They come from the parameters and the body of its operation,
and both argument lists have an entry for each of them, in the same order.
-/

namespace LoadClients

/-- An entry of a typed argument list that declares an identifier. -/
def Declares (id entry : String) : Prop :=
  ∃ type, entry = id ++ ": " ++ type ∨ entry = id ++ "?: " ++ type

/-- An entry of an untyped argument list that declares an identifier, perhaps with a default. -/
def Introduces (id entry : String) : Prop := entry = id ∨ ∃ value, entry = id ++ " = " ++ value

theorem Argument.declares_typed (a : Argument) : Declares a.name a.typed := by
  refine ⟨a.type, ?_⟩
  unfold typed
  cases a.required with
  | true => exact Or.inl rfl
  | false => exact Or.inr rfl

theorem Argument.introduces_untyped (a : Argument) : Introduces a.name a.untyped := by
  unfold untyped
  cases a.initial with
  | none => exact Or.inl rfl
  | some value => exact Or.inr ⟨value, rfl⟩

def Parameter.identifier (p : Parameter) : String := Naming.camelCase p.name

/-- The parameter is an argument of the method. -/
def Parameter.isArgument (p : Parameter) : Bool := p.location = .path ∨ p.location = .query

def RequestBody.identifier (b : RequestBody) : String := (Payload.ofContent b.content).argumentName

namespace Operation

/-- The parameters that become arguments. -/
def argumentParameters (o : Operation) : List Parameter := o.parameters.filter Parameter.isArgument

/-- What is required, the body, what may be left out, and the options. -/
def identifiers (o : Operation) : List String :=
  (o.argumentParameters.filter (·.required)).map Parameter.identifier ++
    (o.requestBody.map RequestBody.identifier).toList ++
    (o.argumentParameters.filter (!·.required)).map Parameter.identifier ++ ["params"]

end Operation

theorem parameters_of_inputs (ps : List Parameter) :
    (ps.filterMap Parameter.input?).map Input.parameter = ps.filter Parameter.isArgument := by
  induction ps with
  | nil => rfl
  | cons p ps ih =>
    cases location : p.location <;>
      simp [Parameter.input?, Location.place?, Parameter.isArgument, location, ih]

namespace Request

theorem bindings_of_inputs (r : Request) (kept : Parameter → Bool) :
    (r.inputs.filter fun i => kept i.parameter).map Input.binding =
      ((r.inputs.map Input.parameter).filter kept).map Parameter.identifier := by
  rw [List.filter_map, List.map_map]
  rfl

/-- The arguments of a request have the identifiers of its operation. -/
theorem arguments_names {e : Endpoint} {r : Request} (h : ofEndpoint e = .ok r) :
    r.arguments.map Argument.name = e.operation.identifiers := by
  obtain ⟨_, parts⟩ := ofEndpoint_eq_ok h
  have inputs : r.inputs.map Input.parameter = e.operation.argumentParameters := by
    rw [parts, Operation.argumentParameters, parameters_of_inputs]
  have required : (r.requiredInputs.map Input.argument).map Argument.name =
      (e.operation.argumentParameters.filter (·.required)).map Parameter.identifier := by
    rw [← inputs, ← bindings_of_inputs, List.map_map]
    rfl
  have optional : (r.optionalInputs.map Input.argument).map Argument.name =
      (e.operation.argumentParameters.filter (!·.required)).map Parameter.identifier := by
    rw [← inputs, ← bindings_of_inputs, List.map_map]
    rfl
  have body : (r.body.map Body.argument).toList.map Argument.name =
      (e.operation.requestBody.map RequestBody.identifier).toList := by
    rw [parts]
    cases e.operation.requestBody <;> rfl
  simp only [arguments, List.map_append, required, body, optional]
  rfl

/-- A text of each argument stands for its identifier. -/
theorem forall₂_arguments {e : Endpoint} {r : Request} (h : ofEndpoint e = .ok r)
    {Entry : String → String → Prop} {text : Argument → String}
    (entry : ∀ a : Argument, Entry a.name (text a)) :
    List.Forall₂ Entry e.operation.identifiers (r.arguments.map text) := by
  rw [← arguments_names h, List.forall₂_map_left_iff, List.forall₂_map_right_iff,
    List.forall₂_same]
  intro a _
  exact entry a

theorem forall₂_typed {e : Endpoint} {r : Request} (h : ofEndpoint e = .ok r) :
    List.Forall₂ Declares e.operation.identifiers r.typedArguments := by
  rw [typedArguments_eq]
  exact forall₂_arguments h Argument.declares_typed

theorem forall₂_untyped {e : Endpoint} {r : Request} (h : ofEndpoint e = .ok r) :
    List.Forall₂ Introduces e.operation.identifiers r.untypedArguments := by
  rw [untypedArguments_eq]
  exact forall₂_arguments h Argument.introduces_untyped

end Request

end LoadClients

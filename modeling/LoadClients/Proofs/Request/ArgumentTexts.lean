import LoadClients.Request.Arguments

/-!
The two lists of texts that are written side by side are those of one list of arguments. A single
input adds the texts of its argument to one of the two parts, and so all inputs in their order add
those of the arguments that must be given to the one and of all others to the other.
-/

namespace LoadClients

namespace ArgumentTexts

/-- The texts of a list of arguments. -/
def ofArguments (as : List Argument) : ArgumentTexts :=
  ⟨as.map Argument.typed, as.map Argument.untyped⟩

theorem push_ofArguments (as : List Argument) (a : Argument) :
    (ofArguments as).push a.typed a.untyped = ofArguments (as ++ [a]) := by
  simp only [ofArguments, push, List.map_append, List.map_singleton]

theorem append_ofArguments (as bs : List Argument) :
    (ofArguments as).append (ofArguments bs) = ofArguments (as ++ bs) := by
  simp only [ofArguments, append, List.map_append]

end ArgumentTexts

open ArgumentTexts

namespace InputTexts
variable {i : Input} {as bs : List Argument}

theorem add_of_required (h : i.parameter.required = true) :
    add ⟨ofArguments as, ofArguments bs⟩ i =
      ⟨ofArguments (as ++ [i.argument]), ofArguments bs⟩ := by
  have typed : i.argument.typed = i.binding ++ ": " ++ i.parameter.schema.typeName := by
    simp only [Input.argument, Argument.typed, h, if_true]
  have untyped : i.argument.untyped = i.binding := by
    simp only [Input.argument, Argument.untyped, h, if_true]
  rw [← push_ofArguments, typed, untyped]
  simp only [add, h, if_true]

theorem add_of_optional (h : i.parameter.required = false) :
    add ⟨ofArguments as, ofArguments bs⟩ i =
      ⟨ofArguments as, ofArguments (bs ++ [i.argument])⟩ := by
  have typed : i.argument.typed = i.binding ++ "?: " ++ i.parameter.schema.typeName := by
    simp only [Input.argument, Argument.typed, h, Bool.false_eq_true, if_false]
  rw [← push_ofArguments, typed]
  simp only [add, h, Bool.false_eq_true, if_false]
  cases value : i.parameter.schema.defaultValue with
  | some v => simp [Input.argument, Argument.untyped, h, value]
  | none => simp [Input.argument, Argument.untyped, h, value]

theorem foldl_add (is : List Input) (as bs : List Argument) :
    is.foldl add ⟨ofArguments as, ofArguments bs⟩ =
      ⟨ofArguments (as ++ (is.filter (·.parameter.required)).map Input.argument),
        ofArguments (bs ++ (is.filter (!·.parameter.required)).map Input.argument)⟩ := by
  induction is generalizing as bs with
  | nil => simp
  | cons i is ih =>
    rw [List.foldl_cons]
    cases required : i.parameter.required with
    | true =>
      rw [add_of_required required, ih]
      simp [required]
    | false =>
      rw [add_of_optional required, ih]
      simp [required]

end InputTexts

namespace Request
variable (r : Request)

theorem argumentTexts_eq : r.argumentTexts = ofArguments r.arguments := by
  have options : (Argument.options.typed, Argument.options.untyped) =
      ("params?: RefinedParams<RT> | null", "params = undefined") := by decide
  obtain ⟨typed, untyped⟩ := Prod.mk.inj options
  have inputs : r.inputs.foldl InputTexts.add ⟨.empty, .empty⟩ =
      ⟨ofArguments (r.requiredInputs.map Input.argument),
        ofArguments (r.optionalInputs.map Input.argument)⟩ :=
    InputTexts.foldl_add r.inputs [] []
  unfold argumentTexts arguments
  rw [inputs, ← typed, ← untyped]
  cases r.body with
  | none => simp [push_ofArguments, append_ofArguments]
  | some b =>
    have body : (ofArguments (r.requiredInputs.map Input.argument)).push
        (b.payload.argumentName ++ ": " ++ b.payload.argumentType) b.payload.argumentName =
          ofArguments (r.requiredInputs.map Input.argument ++ [b.argument]) :=
      push_ofArguments _ b.argument
    simp [body, push_ofArguments, append_ofArguments]

theorem typedArguments_eq : r.typedArguments = r.arguments.map Argument.typed :=
  congrArg ArgumentTexts.typed r.argumentTexts_eq

theorem untypedArguments_eq : r.untypedArguments = r.arguments.map Argument.untyped :=
  congrArg ArgumentTexts.untyped r.argumentTexts_eq

end Request

end LoadClients

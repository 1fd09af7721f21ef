import LoadClients.Proofs.Request.Identifiers

/-!
The order of arguments. The parameters that are required come first, then the body, then the
parameters that may be left out, and the options are last. Parameters keep the order in which they
are declared, none is lost, and a default stands at those that may be left out and declare one.
-/

namespace LoadClients

namespace Parameter

/-- The value of an argument that is left out. -/
def initial? (p : Parameter) : Option Value := if p.required then none else p.schema.defaultValue

def argument (p : Parameter) : Argument :=
  ⟨p.identifier, p.schema.typeName, p.required, p.initial?.map Value.literal⟩

def typedEntry (p : Parameter) : String :=
  p.identifier ++ (if p.required then ": " else "?: ") ++ p.schema.typeName

def untypedEntry (p : Parameter) : String :=
  match p.initial? with
  | some value => p.identifier ++ " = " ++ value.literal
  | none => p.identifier

theorem untyped_argument (p : Parameter) : p.argument.untyped = p.untypedEntry := by
  unfold Argument.untyped argument untypedEntry
  cases p.initial? <;> rfl

theorem initial?_eq_some_iff {p : Parameter} {value : Value} :
    p.initial? = some value ↔ p.required = false ∧ (∀ path, p.schema ≠ .reference path) ∧
      p.schema.defaultValue = some value := by
  have not_reference (declared : p.schema.defaultValue = some value) (path : String) :
      p.schema ≠ .reference path := by
    intro reference
    rw [reference] at declared
    cases declared
  unfold initial?
  cases p.required with
  | true => simp
  | false =>
    constructor
    · exact fun declared => ⟨rfl, not_reference declared, declared⟩
    · exact fun ⟨_, _, declared⟩ => declared

/-- An entry has a default exactly if the parameter may be left out and its schema, which is no
reference, declares one. -/
theorem untypedEntry_eq_iff {p : Parameter} {text : String} :
    p.untypedEntry = p.identifier ++ " = " ++ text ↔
      p.required = false ∧ (∀ path, p.schema ≠ .reference path) ∧
        ∃ value, p.schema.defaultValue = some value ∧ value.literal = text := by
  have entry : p.untypedEntry = p.identifier ++ " = " ++ text ↔
      ∃ value, p.initial? = some value ∧ value.literal = text := by
    unfold untypedEntry
    cases p.initial? with
    | some value => simp [String.append_assoc]
    | none =>
      have longer : p.identifier ≠ p.identifier ++ " = " ++ text := by
        intro same
        have lengths := congrArg String.length same
        have three : " = ".length = 3 := by decide
        rw [String.length_append, String.length_append, three] at lengths
        omega
      simp [longer]
  simp only [entry, initial?_eq_some_iff, and_assoc, exists_and_left]

end Parameter

namespace RequestBody

def argument (b : RequestBody) : Argument :=
  ⟨b.identifier, (Payload.ofContent b.content).argumentType, true, none⟩

def typedEntry (b : RequestBody) : String :=
  b.identifier ++ ": " ++ (Payload.ofContent b.content).argumentType

end RequestBody

namespace Operation
variable (o : Operation)

def requiredParameters : List Parameter := o.argumentParameters.filter (·.required)

def optionalParameters : List Parameter := o.argumentParameters.filter (!·.required)

/-- The parameters of the path and the query, and no others, are each in one of the two lists. -/
theorem required_append_optional_perm :
    (o.requiredParameters ++ o.optionalParameters).Perm
      (o.parameters.filter fun p => p.location = .path ∨ p.location = .query) :=
  List.filter_append_perm Parameter.required o.argumentParameters

end Operation

namespace Request

theorem arguments_of_inputs (r : Request) (kept : Parameter → Bool) :
    (r.inputs.filter fun i => kept i.parameter).map Input.argument =
      ((r.inputs.map Input.parameter).filter kept).map Parameter.argument := by
  have input (i : Input) : i.argument = i.parameter.argument := by
    unfold Input.argument Parameter.argument Parameter.initial?
    cases i.parameter.required <;> rfl
  rw [List.filter_map, List.map_map]
  exact List.map_congr_left fun i _ => input i

theorem arguments_eq {e : Endpoint} {r : Request} (h : ofEndpoint e = .ok r) :
    r.arguments = e.operation.requiredParameters.map Parameter.argument ++
      (e.operation.requestBody.map RequestBody.argument).toList ++
      e.operation.optionalParameters.map Parameter.argument ++ [Argument.options] := by
  obtain ⟨_, parts⟩ := ofEndpoint_eq_ok h
  have inputs : r.inputs.map Input.parameter = e.operation.argumentParameters := by
    rw [parts, Operation.argumentParameters, parameters_of_inputs]
  have body : r.body.map Body.argument = e.operation.requestBody.map RequestBody.argument := by
    rw [parts]
    cases e.operation.requestBody <;> rfl
  unfold arguments requiredInputs optionalInputs Operation.requiredParameters
    Operation.optionalParameters
  rw [r.arguments_of_inputs (·.required), r.arguments_of_inputs (!·.required), inputs, body]

/-- The argument lists of a request, entry by entry, as the parameters and the body of an operation
make them. -/
structure ArgumentOrder (o : Operation) (r : Request) : Prop where
  typed : r.typedArguments = o.requiredParameters.map Parameter.typedEntry ++
    (o.requestBody.map RequestBody.typedEntry).toList ++
    o.optionalParameters.map Parameter.typedEntry ++ ["params?: RefinedParams<RT> | null"]
  untyped : r.untypedArguments = o.requiredParameters.map Parameter.untypedEntry ++
    (o.requestBody.map RequestBody.identifier).toList ++
    o.optionalParameters.map Parameter.untypedEntry ++ ["params = undefined"]
  inOrder : o.requiredParameters.Sublist o.parameters ∧ o.optionalParameters.Sublist o.parameters
  /-- headers and cookies are left out, and nothing else -/
  once : (o.requiredParameters ++ o.optionalParameters).Perm
    (o.parameters.filter fun p => p.location = .path ∨ p.location = .query)
  /-- of two entries the later one is required only if the earlier one is -/
  requiredFirst : r.arguments.Pairwise fun a b => b.required → a.required
  marks : r.typedArguments = r.arguments.map fun a =>
    a.name ++ (if a.required then ": " else "?: ") ++ a.type
  defaults : ∀ (p : Parameter) (text : String), p.untypedEntry = p.identifier ++ " = " ++ text ↔
    p.required = false ∧ (∀ path, p.schema ≠ .reference path) ∧
      ∃ value, p.schema.defaultValue = some value ∧ value.literal = text

theorem pairwise_required {as bs : List Argument} (required : ∀ a ∈ as, a.required)
    (optional : ∀ b ∈ bs, b.required = false) :
    (as ++ bs).Pairwise fun a b => b.required → a.required := by
  rw [List.pairwise_append]
  refine ⟨?_, ?_, fun a ha _ _ _ => required a ha⟩
  · exact List.pairwise_of_forall_mem_list fun a ha _ _ _ => required a ha
  · exact List.pairwise_of_forall_mem_list fun _ _ b hb given => by simp [optional b hb] at given

/-- The arguments of every operation that has a request are ordered. -/
theorem arguments_in_order {e : Endpoint} {r : Request} (h : ofEndpoint e = .ok r) :
    ArgumentOrder e.operation r where
  typed := by
    rw [typedArguments_eq, arguments_eq h]
    simp only [List.map_append, List.map_map]
    cases e.operation.requestBody <;> rfl
  untyped := by
    have parameters : Argument.untyped ∘ Parameter.argument = Parameter.untypedEntry :=
      funext Parameter.untyped_argument
    rw [untypedArguments_eq, arguments_eq h]
    simp only [List.map_append, List.map_map, parameters]
    cases e.operation.requestBody <;> rfl
  inOrder := by
    have arguments := List.filter_sublist (p := Parameter.isArgument) (l := e.operation.parameters)
    exact ⟨List.filter_sublist.trans arguments, List.filter_sublist.trans arguments⟩
  once := e.operation.required_append_optional_perm
  requiredFirst := by
    rw [arguments_eq h, List.append_assoc]
    apply pairwise_required
    · intro a ha
      rcases List.mem_append.mp ha with parameter | body
      · obtain ⟨p, hp, rfl⟩ := List.mem_map.mp parameter
        exact (List.mem_filter.mp hp).2
      · rw [Option.mem_toList, Option.map_eq_some_iff] at body
        obtain ⟨b, _, rfl⟩ := body
        rfl
    · intro b hb
      rcases List.mem_append.mp hb with parameter | options
      · obtain ⟨p, hp, rfl⟩ := List.mem_map.mp parameter
        simpa [Parameter.argument] using (List.mem_filter.mp hp).2
      · rw [List.mem_singleton.mp options]
        rfl
  marks := r.typedArguments_eq
  defaults _ _ := Parameter.untypedEntry_eq_iff

/-- An operation with required and optional parameters in turn. One has a default, and one has a
reference for its schema. -/
def blending : Endpoint where
  resource := "/blend/\x7bhop\x7d"
  method := .put
  operation :=
    { tags := ["blend"], summary := none, description := none, operationId := none
      parameters := [⟨"batch-size", .query, false, none,
          .primitive (some .string) (some (.text "M"))⟩,
        ⟨"hop", .path, true, none, Schema.any⟩,
        ⟨"trace", .header, true, none, Schema.any⟩,
        ⟨"style", .query, false, none, .reference "#/schemas/Style"⟩,
        ⟨"year", .query, true, none, .primitive (some .integer) (some .null)⟩]
      requestBody := some ⟨none, Table.ofList [("application/octet-stream", Schema.any)]⟩
      responses := Table.empty }

theorem arguments_in_order_blending :
    ∃ r, ofEndpoint blending = .ok r ∧
      r.typedArguments = ["hop: any", "year: number", "binFile: ArrayBuffer", "batchSize?: string",
        "style?: Style", "params?: RefinedParams<RT> | null"] ∧
      r.untypedArguments =
        ["hop", "year", "binFile", "batchSize = \"M\"", "style", "params = undefined"] ∧
      ArgumentOrder blending.operation r := by
  have lists : (ofEndpoint blending).map (fun r => (r.typedArguments, r.untypedArguments)) =
      .ok (["hop: any", "year: number", "binFile: ArrayBuffer", "batchSize?: string",
          "style?: Style", "params?: RefinedParams<RT> | null"],
        ["hop", "year", "binFile", "batchSize = \"M\"", "style", "params = undefined"]) := by
    decide +kernel
  obtain ⟨r, h, eq⟩ := map_eq_ok_iff.mp lists
  obtain ⟨typed, untyped⟩ := Prod.mk.inj eq
  exact ⟨r, h, typed, untyped, arguments_in_order h⟩

end Request

end LoadClients

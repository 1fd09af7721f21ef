import LoadClients.Proofs.Client.DistinctCalls
import LoadClients.Proofs.Request.Identifiers
import LoadClients.Proofs.Text.Ends

/-!
The declaration and the definition of a method. They agree in the name, in the arguments one by one,
and in whether a value is returned.
-/

namespace LoadClients

namespace ClientMethod

/-- The end of a declaration that returns a value of a type. -/
def declaredValue (type : String) : String :=
  ": \x7b res: RefinedResponse<ResponseType | undefined>, json(): " ++ type ++ " \x7d" ++ ";"

/-- The end of a definition that returns a value. -/
def definedValue : String :=
  "\n    return \x7b res, json: () => res.json() \x7d;" ++ "\n  \x7d"

/-- A method whose two texts agree. Both declare the identifiers of an operation, and what they end in
tells whether a value is returned. -/
structure Lockstep (o : Operation) (m : ClientMethod) : Prop where
  declares : m.typeSource = m.request.comment ++ "\n  " ++ m.name ++
    "<RT extends ResponseType | undefined>(" ++ ", ".intercalate m.request.typedArguments ++ ")" ++
      m.returnType ++ ";"
  defines : ∃ statements, m.source = "\n  " ++ m.name ++ "(" ++
    ", ".intercalate m.request.untypedArguments ++ ")" ++ " \x7b" ++ statements ++ "\n  \x7d"
  length : m.request.typedArguments.length = m.request.untypedArguments.length
  typed : List.Forall₂ Declares o.identifiers m.request.typedArguments
  untyped : List.Forall₂ Introduces o.identifiers m.request.untypedArguments
  options : o.identifiers.getLast? = some "params"
  declaresValue : m.returnsBody ↔ ∃ type, EndsWith m.typeSource (declaredValue type)
  definesValue : m.returnsBody ↔ EndsWith m.source definedValue

variable (m : ClientMethod)

theorem typeSource_eq : m.typeSource = m.request.comment ++ "\n  " ++ m.name ++
    "<RT extends ResponseType | undefined>(" ++ ", ".intercalate m.request.typedArguments ++ ")" ++
      m.returnType ++ ";" := by
  unfold typeSource signature
  simp only [String.append_assoc]

/-- What a definition does between its braces. -/
def statements : String :=
  m.queryStatement ++ m.request.bodyStatement.getD "" ++
    "\n    params = Object.assign(\x7b\x7d, this.params, params);" ++ m.headerStatement ++
    m.sendStatement ++ m.checkStatement ++ m.returnStatement

theorem source_eq : m.source = "\n  " ++ m.name ++ "(" ++
    ", ".intercalate m.request.untypedArguments ++ ")" ++ " \x7b" ++ m.statements ++
      "\n  \x7d" := by
  unfold source call callText argumentText statements
  simp only [String.append_assoc]

theorem returnStatement_of_response {type : String} (h : m.request.responseType = some type) :
    m.returnStatement = "\n    return \x7b res, json: () => res.json() \x7d;" := by
  rw [returnStatement, returnsBody, h, Option.isSome_some, if_pos rfl]

theorem returnStatement_of_no_response (h : m.request.responseType = none) :
    m.returnStatement = "" := by
  rw [returnStatement, returnsBody, h, Option.isSome_none, if_neg Bool.false_ne_true]

theorem declaredValue_of_response {type : String} (h : m.request.responseType = some type) :
    EndsWith m.typeSource (declaredValue type) := by
  unfold typeSource returnType
  rw [h]
  exact .append_right ⟨_, rfl⟩ ";"

/-- Without a value a declaration ends after its arguments. -/
theorem parenthesis_of_no_response (h : m.request.responseType = none) :
    EndsWith m.typeSource (")" ++ ";") := by
  have value : m.returnType = "" := by rw [returnType, h]
  unfold typeSource
  rw [value, String.append_empty]
  exact .append_right (.append_left _ ⟨_, rfl⟩) ";"

theorem definedValue_of_response {type : String} (h : m.request.responseType = some type) :
    EndsWith m.source definedValue := by
  unfold source
  rw [m.returnStatement_of_response h]
  exact .append_right ⟨_, rfl⟩ "\n  \x7d"

/-- Without a value a definition ends in a call, of the check or of the request function. -/
theorem call_of_no_response (h : m.request.responseType = none) :
    EndsWith m.source (");" ++ "\n  \x7d") := by
  have sends : EndsWith m.sendStatement ");" := by
    unfold sendStatement
    exact .append_left _ ⟨"params", rfl⟩
  unfold source
  rw [m.returnStatement_of_no_response h, String.append_empty]
  apply EndsWith.append_right
  unfold checkStatement
  cases m.request.checkedStatus with
  | some status => exact .append_left _ (.append_left _ ⟨"\n    \x7d", rfl⟩)
  | none =>
    rw [String.append_empty]
    exact .append_left _ sends

theorem returnsBody_iff_declaredValue :
    m.returnsBody ↔ ∃ type, EndsWith m.typeSource (declaredValue type) := by
  cases response : m.request.responseType with
  | some type =>
    have returns : m.returnsBody := by rw [returnsBody, response, Option.isSome_some]
    exact iff_of_true returns ⟨type, m.declaredValue_of_response response⟩
  | none =>
    have returns : ¬ m.returnsBody := by rw [returnsBody, response, Option.isSome_none]; simp
    refine iff_of_false returns ?_
    rintro ⟨type, value⟩
    -- a brace would stand where the parenthesis of the arguments does
    have close : EndsWith " \x7d" "\x7d" := ⟨" ", rfl⟩
    have brace : EndsWith (declaredValue type) ("\x7d" ++ ";") := by
      unfold declaredValue
      exact .append_right (.append_left _ close) ";"
    have same := (m.parenthesis_of_no_response response).unique (value.trans brace) (by decide)
    exact absurd same (by decide)

theorem returnsBody_iff_definedValue : m.returnsBody ↔ EndsWith m.source definedValue := by
  cases response : m.request.responseType with
  | some type =>
    have returns : m.returnsBody := by rw [returnsBody, response, Option.isSome_some]
    exact iff_of_true returns (m.definedValue_of_response response)
  | none =>
    have returns : ¬ m.returnsBody := by rw [returnsBody, response, Option.isSome_none]; simp
    refine iff_of_false returns ?_
    intro value
    -- here too a brace would stand where a call is closed
    have close : EndsWith "\n    return \x7b res, json: () => res.json() \x7d;" "\x7d;" :=
      ⟨"\n    return \x7b res, json: () => res.json() ", rfl⟩
    have brace : EndsWith definedValue ("\x7d;" ++ "\n  \x7d") := by
      unfold definedValue
      exact .append_right close "\n  \x7d"
    have same := (m.call_of_no_response response).unique (value.trans brace) (by decide)
    exact absurd same (by decide)

theorem lockstep_of_ofEndpoint {e : Endpoint} (h : Request.ofEndpoint e = .ok m.request) :
    Lockstep e.operation m where
  declares := m.typeSource_eq
  defines := ⟨m.statements, m.source_eq⟩
  length := by
    rw [Request.typedArguments_eq, Request.untypedArguments_eq, List.length_map, List.length_map]
  typed := Request.forall₂_typed h
  untyped := Request.forall₂_untyped h
  options := by simp [Operation.identifiers]
  declaresValue := m.returnsBody_iff_declaredValue
  definesValue := m.returnsBody_iff_definedValue

end ClientMethod

namespace Client

/-- In the two texts of a client each operation has one method, declared and defined in
lockstep. -/
theorem generate_in_lockstep {tag : String} {es : List Endpoint} {c : Client}
    (h : generate tag es = .ok c) :
    List.Forall₂ (fun e m => ClientMethod.Lockstep e.operation m) es c.methods := by
  have requests : List.Forall₂ (· = ·) (es.map Request.ofEndpoint)
      ((c.methods.map (·.request)).map .ok) := by
    rw [List.forall₂_eq_eq_eq]
    exact requests_of_generate h
  simp only [List.forall₂_map_left_iff, List.forall₂_map_right_iff] at requests
  exact requests.imp fun e m made => m.lockstep_of_ofEndpoint made

/-- An operation with arguments of all kinds, and the content of its response. -/
def pouring (resource : String) (content : Option Content) : Endpoint where
  resource := resource
  method := .put
  operation :=
    { tags := ["keg"], summary := none, description := none, operationId := some "pour"
      parameters := [
        ⟨"api-version", .query, false, none, .primitive (some .string) (some (.text "1"))⟩,
        ⟨"trace", .header, true, none, Schema.any⟩,
        ⟨"ID", .path, true, none, .primitive (some .integer) none⟩]
      requestBody := some ⟨none, Table.ofList [("application/json", .reference "#/schemas/Beer")]⟩
      responses := Table.ofList [("200", ⟨none, content⟩)] }

def pourings : List Endpoint :=
  [pouring "/keg/\x7bid\x7d" (some (Table.ofList [("application/json", .reference "#/schemas/Beer")])),
    pouring "/bar/\x7bid\x7d" none]

theorem generate_in_lockstep_pourings :
    ∃ c, generate "keg" pourings = .ok c ∧
      c.methods.map (fun m => (m.call, m.returnsBody)) =
        [("pour(iD, beer, apiVersion = \"1\", params = undefined)", true),
          ("pour2(iD, beer, apiVersion = \"1\", params = undefined)", false)] ∧
      List.Forall₂ (fun e m => ClientMethod.Lockstep e.operation m) pourings c.methods := by
  have calls : (generate "keg" pourings).map
      (fun c => c.methods.map fun m => (m.call, m.returnsBody)) =
        .ok [("pour(iD, beer, apiVersion = \"1\", params = undefined)", true),
          ("pour2(iD, beer, apiVersion = \"1\", params = undefined)", false)] := by
    decide +kernel
  obtain ⟨c, h, eq⟩ := map_eq_ok_iff.mp calls
  exact ⟨c, h, eq, generate_in_lockstep h⟩

end Client

end LoadClients

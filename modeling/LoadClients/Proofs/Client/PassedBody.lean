import LoadClients.Proofs.Client.Statements

/-!
The body in the call of the request function. It is passed exactly if the method declares one, and
for that a known media type is enough: whether the request function takes a body is asked only when
there is none to send, so that a body sent with `get` stands where the options belong.
-/

namespace LoadClients

namespace ClientMethod
variable (m : ClientMethod)

/-- The definition of the method up to where a body is declared. -/
def opening : String := "\n  " ++ m.call ++ " \x7b" ++ m.queryStatement

/-- What a method does with its options before it calls the request function. -/
def preparation : String :=
  "\n    params = Object.assign(\x7b\x7d, this.params, params);" ++ m.headerStatement

/-- What the method does once the response is there. -/
def conclusion : String := m.checkStatement ++ m.returnStatement ++ "\n  \x7d"

/-- The call of the request function with something between the address and the options. -/
def sending (given : String) : String :=
  "\n    const res = " ++ m.request.endpoint.method.function ++ "(" ++ m.request.url ++ ", " ++ given ++
    "params);"

/-- The method declares a constant `body` behind its query string. -/
def DeclaresBody : Prop :=
  ∃ value, m.source =
    m.opening ++ ("\n    const body = " ++ value) ++ m.preparation ++ m.sendStatement ++ m.conclusion

/-- The method calls the request function with the address, what is given, and the options. -/
def Sends (given : String) : Prop :=
  m.source =
    m.opening ++ m.request.bodyStatement.getD "" ++ m.preparation ++ m.sending given ++ m.conclusion

/-- The request function is given the body in front of the options. -/
def PassesBody : Prop := m.Sends "body, "

/-- The request function is given the options right behind the address. -/
def PassesOptionsOnly : Prop := m.Sends ""

theorem source_eq_parts : m.source =
    m.opening ++ m.request.bodyStatement.getD "" ++ m.preparation ++ m.sendStatement ++
      m.conclusion := by
  unfold source opening preparation conclusion
  simp only [String.append_assoc]

theorem sendStatement_eq_sending :
    m.sendStatement = m.sending (if m.request.bodyStatement.isSome then "body, " else "") := rfl

theorem declaresBody_iff : m.DeclaresBody ↔ m.request.bodyStatement.isSome := by
  have declared : m.DeclaresBody ↔
      ∃ value, m.request.bodyStatement.getD "" = "\n    const body = " ++ value := by
    unfold DeclaresBody
    rw [source_eq_parts]
    simp only [String.append_left_inj, String.append_right_inj]
  rw [declared]
  cases statement : m.request.bodyStatement with
  | none =>
    refine iff_of_false ?_ (by simp)
    rintro ⟨value, same⟩
    exact absurd (String.append_eq_empty_iff.mp same.symm).1 (by decide)
  | some text =>
    obtain ⟨value, same⟩ := (m.sound_bodyStatement statement).declares "body" rfl
    have words : "\n    const " ++ "body" ++ " = " = "\n    const body = " := by decide
    rw [words] at same
    exact iff_of_true ⟨value, same⟩ rfl

/-- One thing is given between address and options, and it is the body if one is declared. -/
theorem sends_iff {given : String} :
    m.Sends given ↔ given = if m.request.bodyStatement.isSome then "body, " else "" := by
  unfold Sends
  rw [source_eq_parts, sendStatement_eq_sending]
  unfold sending
  simp only [String.append_left_inj, String.append_right_inj]
  exact eq_comm

theorem passesBody_iff_declaresBody : m.PassesBody ↔ m.DeclaresBody := by
  rw [declaresBody_iff, PassesBody, sends_iff]
  cases m.request.bodyStatement <;> simp

theorem passesOptionsOnly_iff : m.PassesOptionsOnly ↔ ¬ m.PassesBody := by
  rw [passesBody_iff_declaresBody, declaresBody_iff, PassesOptionsOnly, sends_iff]
  cases m.request.bodyStatement <;> simp

/-- The body is passed exactly if it is declared, and otherwise the options take its place. There is
one if the operation has a body in a known media type, or if the method expects one. So the call has
a body just where the method expects one, except for bodies in known media types that are sent with
a method that expects none. -/
theorem passes_body_iff {e : Endpoint} {m : ClientMethod}
    (made : Request.ofEndpoint e = .ok m.request) :
    (m.PassesBody ↔ m.DeclaresBody) ∧ (m.PassesOptionsOnly ↔ ¬ m.PassesBody) ∧
    (m.PassesBody ↔ e.operation.sendsBody ∨ e.method.expectsBody) ∧
    ((m.PassesBody ↔ e.method.expectsBody) ↔
      (e.operation.sendsBody → e.method.expectsBody)) := by
  have passes : m.PassesBody ↔ e.operation.sendsBody ∨ e.method.expectsBody := by
    rw [passesBody_iff_declaresBody, declaresBody_iff, Request.bodyStatement_isSome made,
      Bool.or_eq_true]
  refine ⟨m.passesBody_iff_declaresBody, m.passesOptionsOnly_iff, passes, ?_⟩
  rw [passes]
  exact or_iff_right_iff_imp

/-- An operation with a body in the given media types. -/
def bottling (method : Method) (types : List String) : Endpoint where
  resource := "/bottle"
  method := method
  operation :=
    { tags := ["beer"], summary := none, description := none, operationId := none
      parameters := []
      requestBody := some ⟨none, Table.ofList (types.map fun type => (type, Schema.any))⟩
      responses := Table.empty }

/-- The function that `get` calls takes no body, and is given one in place of its options. -/
theorem body_in_place_of_options :
    (bottling .get ["application/json"]).method.expectsBody = false ∧
    ∃ m : ClientMethod, Request.ofEndpoint (bottling .get ["application/json"]) = .ok m.request ∧
      m.request.bodyStatement = some "\n    const body = JSON.stringify(payload);" ∧
      m.sendStatement =
        "\n    const res = http.get(`$\x7bthis.baseUrl\x7d/bottle`, body, params);" ∧
      m.DeclaresBody ∧ m.PassesBody := by
  have texts : (Request.ofEndpoint (bottling .get ["application/json"])).map
      (fun r => (r.bodyStatement, (ClientMethod.mk "BeerClient" "bottle" r).sendStatement)) =
      .ok (some "\n    const body = JSON.stringify(payload);",
        "\n    const res = http.get(`$\x7bthis.baseUrl\x7d/bottle`, body, params);") := by
    decide +kernel
  obtain ⟨r, made, eq⟩ := map_eq_ok_iff.mp texts
  obtain ⟨statement, call⟩ := Prod.mk.inj eq
  let m : ClientMethod := ⟨"BeerClient", "bottle", r⟩
  have declared : m.DeclaresBody := m.declaresBody_iff.mpr (Option.isSome_of_eq_some statement)
  exact ⟨rfl, m, made, statement, call, declared, m.passesBody_iff_declaresBody.mpr declared⟩

/-- A body in an unknown media type is not sent: `put` passes an undefined one, and `get` none. -/
theorem passes_body_iff_bottling :
    (∃ m : ClientMethod, Request.ofEndpoint (bottling .put ["text/plain"]) = .ok m.request ∧
      m.PassesBody ∧ m.DeclaresBody) ∧
    ∃ m : ClientMethod, Request.ofEndpoint (bottling .get ["text/plain"]) = .ok m.request ∧
      m.PassesOptionsOnly ∧ ¬ m.DeclaresBody := by
  have made (method : Method) :
      ∃ r, Request.ofEndpoint (bottling method ["text/plain"]) = .ok r := by
    have template : (Template.parse "/bottle").map (·.text) = .ok "/bottle" := by decide +kernel
    obtain ⟨t, parsed, _⟩ := map_eq_ok_iff.mp template
    refine ⟨⟨bottling method ["text/plain"], t, [], some ⟨none, .other⟩⟩, ?_⟩
    have content : Payload.ofContent (Table.ofList [("text/plain", Schema.any)]) = .other := rfl
    simp only [Request.ofEndpoint, bottling, parsed, inputsOf, Option.map_some, List.map_cons,
      List.map_nil, content]
  constructor
  · obtain ⟨r, ok⟩ := made .put
    obtain ⟨declares, _, passes, _⟩ := passes_body_iff (m := ⟨"BeerClient", "bottle", r⟩) ok
    have passed := passes.mpr (Or.inr rfl)
    exact ⟨_, ok, passed, declares.mp passed⟩
  · obtain ⟨r, ok⟩ := made .get
    obtain ⟨declares, options, passes, _⟩ := passes_body_iff (m := ⟨"BeerClient", "bottle", r⟩) ok
    have unknown : (bottling .get ["text/plain"]).operation.sendsBody = false := by decide
    have unpassed : ¬ ClientMethod.PassesBody ⟨"BeerClient", "bottle", r⟩ := by
      rw [passes, unknown]
      decide
    exact ⟨_, ok, options.mpr unpassed, fun declared => unpassed (declares.mpr declared)⟩

end ClientMethod

end LoadClients

import LoadClients.Proofs.Client.Lockstep
import LoadClients.Proofs.Request.Address

/-!
The statements of a method. Some of them declare a constant: the response always, the query string
if there are parameters for it, and the body if one is sent.
-/

namespace LoadClients

/-- A statement of a method, and the constant that it declares. -/
structure Statement where
  constant : Option String
  text : String

namespace Statement

/-- The text declares the constant, and a text without one begins in another way. -/
structure Sound (s : Statement) : Prop where
  declares : ∀ id, s.constant = some id → BeginsWith s.text ("\n    const " ++ id ++ " = ")
  plain : s.constant = none → ¬ BeginsWith s.text "\n    const "

theorem sound_of_constant {id text : String}
    (h : BeginsWith text ("\n    const " ++ id ++ " = ")) : Sound ⟨some id, text⟩ where
  declares := by
    rintro _ ⟨⟩
    exact h
  plain := by
    rintro ⟨⟩

theorem sound_of_front {text : String} (front : String) (h : BeginsWith text front)
    (length : front.length = "\n    const ".length) (other : front ≠ "\n    const ") :
    Sound ⟨none, text⟩ where
  declares := by
    rintro _ ⟨⟩
  plain := by
    intro _ constant
    exact other (h.unique constant length)

theorem sound_empty : Sound ⟨none, ""⟩ where
  declares := by
    rintro _ ⟨⟩
  plain := by
    rintro _ ⟨rest, same⟩
    have front := (String.append_eq_empty_iff.mp same.symm).1
    exact absurd front (by decide)

end Statement

theorem Payload.isSome_statement (p : Payload) : p.statement.isSome = p.mediaType.isSome := by
  cases p <;> rfl

/-- The body of the operation has a known media type. -/
def Operation.sendsBody (o : Operation) : Bool :=
  (o.requestBody.bind (·.content.sentType?)).isSome

/-- What a method of the operation declares besides its arguments. -/
def Endpoint.constants (e : Endpoint) : List String :=
  (if e.operation.parameters.any (·.location = .query) then ["qs"] else []) ++
    (if e.operation.sendsBody || e.method.expectsBody then ["body"] else []) ++ ["res"]

theorem Request.bodyStatement_isSome {e : Endpoint} {r : Request} (h : ofEndpoint e = .ok r) :
    r.bodyStatement.isSome = (e.operation.sendsBody || e.method.expectsBody) := by
  obtain ⟨_, parts⟩ := ofEndpoint_eq_ok h
  have endpoint := endpoint_of_ofEndpoint h
  have sends : (r.body.bind fun b => b.payload.statement).isSome = e.operation.sendsBody := by
    rw [parts, Operation.sendsBody]
    cases e.operation.requestBody with
    | none => rfl
    | some b =>
      rw [Option.map_some, Option.bind_some, Option.bind_some, Payload.isSome_statement,
        Payload.mediaType_ofContent]
  unfold bodyStatement
  rw [Option.isSome_or, sends, endpoint]
  cases e.method.expectsBody <;> rfl

namespace ClientMethod
variable (m : ClientMethod)

/-- What a method does, one statement after the other. -/
def body : List Statement :=
  (m.request.queryString.map fun _ => ⟨some "qs", m.queryStatement⟩).toList ++
    (m.request.bodyStatement.map fun text => ⟨some "body", text⟩).toList ++
    [⟨none, "\n    params = Object.assign(\x7b\x7d, this.params, params);"⟩,
      ⟨none, m.headerStatement⟩, ⟨some "res", m.sendStatement⟩, ⟨none, m.checkStatement⟩,
      ⟨none, m.returnStatement⟩]

theorem statements_eq_body : m.statements = String.join (m.body.map Statement.text) := by
  have query : m.queryStatement = String.join
      ((m.request.queryString.map fun _ => (⟨some "qs", m.queryStatement⟩ : Statement)).toList.map
        Statement.text) := by
    cases string : m.request.queryString with
    | none => simp [queryStatement, string]
    | some qs => simp
  have sent : m.request.bodyStatement.getD "" = String.join
      ((m.request.bodyStatement.map fun text => (⟨some "body", text⟩ : Statement)).toList.map
        Statement.text) := by
    cases m.request.bodyStatement <;> simp
  unfold statements body
  rw [List.map_append, List.map_append, String.join_append, String.join_append, ← query, ← sent]
  simp only [List.map_cons, List.map_nil, String.join_cons, String.join_nil, String.append_empty,
    String.append_assoc]

theorem sound_queryStatement {qs : String} (h : m.request.queryString = some qs) :
    Statement.Sound ⟨some "qs", m.queryStatement⟩ := by
  have front : BeginsWith "\n    const qs = `" ("\n    const " ++ "qs" ++ " = ") := ⟨"`", by decide⟩
  apply Statement.sound_of_constant
  simp only [queryStatement, h]
  exact (front.append_right qs).append_right "`;"

theorem sound_bodyStatement {text : String} (h : m.request.bodyStatement = some text) :
    Statement.Sound ⟨some "body", text⟩ := by
  have front : BeginsWith "\n    const body = " ("\n    const " ++ "body" ++ " = ") :=
    ⟨"", by decide⟩
  apply Statement.sound_of_constant
  rcases Option.or_eq_some_iff.mp h with sent | ⟨_, empty⟩
  · obtain ⟨b, _, statement⟩ := Option.bind_eq_some_iff.mp sent
    have known : b.payload.mediaType.isSome := by
      rw [← Payload.isSome_statement, statement, Option.isSome_some]
    obtain ⟨type, known⟩ := Option.isSome_iff_exists.mp known
    rw [Payload.statement_of_mediaType known, Option.some.injEq] at statement
    rw [← statement]
    exact (front.append_right _).append_right ";"
  · split at empty
    · cases empty
      exact ⟨"undefined;", by decide⟩
    · cases empty

theorem sound_sendStatement : Statement.Sound ⟨some "res", m.sendStatement⟩ := by
  have front : BeginsWith "\n    const res = " ("\n    const " ++ "res" ++ " = ") := ⟨"", by decide⟩
  apply Statement.sound_of_constant
  have call := ((front.append_right m.request.endpoint.method.function).append_right "(")
  exact (((call.append_right m.request.url).append_right ", ").append_right _).append_right _

theorem sound_headerStatement : Statement.Sound ⟨none, m.headerStatement⟩ := by
  unfold headerStatement
  split
  · next type _ =>
    have front : BeginsWith
        "\n    params.headers = Object.assign(\x7b\x7d, params.headers, \x7b \"Content-Type\": \""
        "\n    params" :=
      ⟨".headers = Object.assign(\x7b\x7d, params.headers, \x7b \"Content-Type\": \"", by decide⟩
    exact Statement.sound_of_front _ ((front.append_right type).append_right _) (by decide)
      (by decide)
  · exact Statement.sound_empty

theorem sound_checkStatement : Statement.Sound ⟨none, m.checkStatement⟩ := by
  unfold checkStatement
  split
  · next status _ =>
    have front : BeginsWith "\n    check(res, \x7b\n      \"" "\n    check(" :=
      ⟨"res, \x7b\n      \"", by decide⟩
    have label := (((front.append_right m.className).append_right ".").append_right
      (label m.call)).append_right " "
    have compared :=
      ((label.append_right status).append_right "\": r => r.status === ").append_right status
    exact Statement.sound_of_front _ (compared.append_right _) (by decide) (by decide)
  · exact Statement.sound_empty

theorem sound_returnStatement : Statement.Sound ⟨none, m.returnStatement⟩ := by
  unfold returnStatement
  split
  · exact Statement.sound_of_front "\n    return"
      ⟨" \x7b res, json: () => res.json() \x7d;", by decide⟩ (by decide) (by decide)
  · exact Statement.sound_empty

theorem sound_body : ∀ s ∈ m.body, s.Sound := by
  intro s hs
  simp only [body, List.mem_append, Option.mem_toList, Option.map_eq_some_iff, List.mem_cons,
    List.not_mem_nil, or_false] at hs
  rcases hs with (⟨qs, query, rfl⟩ | ⟨text, body, rfl⟩) | rfl | rfl | rfl | rfl | rfl
  · exact m.sound_queryStatement query
  · exact m.sound_bodyStatement body
  · exact Statement.sound_of_front "\n    params"
      ⟨" = Object.assign(\x7b\x7d, this.params, params);", by decide⟩ (by decide) (by decide)
  · exact m.sound_headerStatement
  · exact m.sound_sendStatement
  · exact m.sound_checkStatement
  · exact m.sound_returnStatement

/-- The constants that the method declares. -/
def constants : List String := m.body.filterMap Statement.constant

theorem constants_eq {e : Endpoint} (made : Request.ofEndpoint e = .ok m.request) :
    m.constants = e.constants := by
  have query := Request.queryString_isSome made
  have sent := Request.bodyStatement_isSome made
  unfold constants body Endpoint.constants
  rw [← query, ← sent]
  cases m.request.queryString <;> cases m.request.bodyStatement <;> rfl

end ClientMethod

end LoadClients

import LoadClients.Proofs.Request.Payload
import LoadClients.Request.Comment

/-!
What a method takes from its operation. Headers, cookies, the tags after the first, the responses
that do not stand for the others, and all media types but one can be left out: the request is then
refused for the same reason, or its texts are the same.
-/

namespace LoadClients

def Response.trimmed (s : Response) : Response := { s with content := s.content.map Table.head }

def Parameter.visible (p : Parameter) : Bool := p.location ≠ .header ∧ p.location ≠ .cookie

namespace Operation

/-- The responses without those that another one stands for. -/
def standing (o : Operation) : Table String Response :=
  o.responses.filter fun status => o.representative.map Prod.fst = some status

def trimmed (o : Operation) : Operation :=
  { o with
    tags := o.tags.take 1
    parameters := o.parameters.filter Parameter.visible
    requestBody := o.requestBody.map fun b => { b with content := b.content.sent }
    responses := o.standing.mapValues Response.trimmed }

theorem representative_mem {o : Operation} {s : String × Response}
    (h : o.representative = some s) : s ∈ o.responses.entries := by
  unfold representative at h
  split at h
  · cases h
  · next one => cases h; simp [one]
  · next r s' rest many =>
    split at h
    · cases h; simp [many]
    · cases h; simp [many]

/-- What one response stood for is not needed to choose it: it still is the representative when it
is the only one. -/
theorem representative_trimmed (o : Operation) :
    o.trimmed.representative = o.representative.map fun s => (s.1, s.2.trimmed) := by
  cases chosen : o.representative with
  | none =>
    have nothing : o.standing.entries = [] := by simp [standing, chosen]
    simp [representative, trimmed, nothing]
  | some s =>
    -- keys are distinct, so nothing else has the status that was chosen
    have alone : o.standing.entries = [s] := by
      have one := Table.entries_filter_key (representative_mem chosen)
      simpa [standing, chosen, eq_comm] using one
    simp [representative, trimmed, alone]

end Operation

theorem inputsOf_visible (ps : List Parameter) :
    inputsOf (ps.filter Parameter.visible) = inputsOf ps := by
  induction ps with
  | nil => rfl
  | cons p ps ih =>
    by_cases visible : p.visible
    · rw [List.filter_cons_of_pos visible]
      unfold inputsOf
      rw [ih]
    · rw [List.filter_cons_of_neg visible, ih]
      cases location : p.location <;> simp_all [Parameter.visible, inputsOf]

def Endpoint.trimmed (e : Endpoint) : Endpoint := { e with operation := e.operation.trimmed }

namespace Request

def trimmed (r : Request) : Request := { r with endpoint := r.endpoint.trimmed }

theorem ofEndpoint_trimmed (e : Endpoint) :
    ofEndpoint e.trimmed = (ofEndpoint e).map trimmed := by
  have body : (e.operation.trimmed.requestBody.map fun b =>
        (⟨b.description, .ofContent b.content⟩ : Body)) =
      e.operation.requestBody.map fun b => ⟨b.description, .ofContent b.content⟩ := by
    simp only [Operation.trimmed, Option.map_map, Function.comp_def, Payload.ofContent_sent]
  have inputs : inputsOf e.operation.trimmed.parameters = inputsOf e.operation.parameters :=
    inputsOf_visible _
  unfold ofEndpoint
  simp only [Endpoint.trimmed, body, inputs]
  cases Template.parse e.resource with
  | error cause => rfl
  | ok template => cases inputsOf e.operation.parameters <;> rfl

variable (r : Request)

@[simp] theorem response_trimmed :
    r.trimmed.response = r.response.map fun s => (s.1, s.2.trimmed) :=
  r.endpoint.operation.representative_trimmed

@[simp] theorem responseType_trimmed : r.trimmed.responseType = r.responseType := by
  unfold responseType
  rw [response_trimmed]
  cases r.response with
  | none => rfl
  | some s =>
    cases content : s.2.content with
    | none => simp [Response.trimmed, content]
    | some c => cases entries : c.entries <;> simp [Response.trimmed, content, entries]

@[simp] theorem checkedStatus_trimmed : r.trimmed.checkedStatus = r.checkedStatus := by
  simp only [checkedStatus, response_trimmed, Option.map_map, Function.comp_def]

@[simp] theorem comment_trimmed : r.trimmed.comment = r.comment := by
  have returns : (r.trimmed.response.bind fun s => said s.2.description) =
      r.response.bind fun s => said s.2.description := by
    rw [response_trimmed]
    cases r.response <;> rfl
  unfold comment paragraphs
  rw [returns]
  rfl

end Request

end LoadClients

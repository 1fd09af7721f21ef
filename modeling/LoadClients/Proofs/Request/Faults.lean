import LoadClients.Request
import LoadClients.Proofs.Results

/-!
Operations that no method can be made of, and what is wrong with them. All other operations have a
request, made of their template, of the parameters that methods take, and of their body.
-/

namespace LoadClients

def Location.place? : Location → Option Place
  | path => some .path
  | query => some .query
  | header => none
  | cookie => none
  | unsupported _ => none

/-- The parameter as an input of a method. Headers and cookies are none. -/
def Parameter.input? (p : Parameter) : Option Input := p.location.place?.map fun place => ⟨p, place⟩

/-- The name and the location of a parameter that is nowhere in a request. -/
def Parameter.misplaced? (p : Parameter) : Option (String × String) :=
  match p.location with
  | .unsupported location => some (p.name, location)
  | _ => none

/-- The inputs among parameters, unless a parameter is misplaced: then the first that is. -/
theorem inputsOf_eq (ps : List Parameter) :
    inputsOf ps =
      match ps.findSome? Parameter.misplaced? with
      | some misplaced => .error misplaced
      | none => .ok (ps.filterMap Parameter.input?) := by
  induction ps with
  | nil => rfl
  | cons p ps ih =>
    rw [inputsOf, List.findSome?_cons, List.filterMap_cons, ih]
    cases location : p.location with
    | path | query =>
      simp only [Parameter.misplaced?, Parameter.input?, Location.place?, location, Option.map_some]
      cases ps.findSome? Parameter.misplaced? <;> rfl
    | header | cookie | unsupported =>
      simp only [Parameter.misplaced?, Parameter.input?, Location.place?, location, Option.map_none]

/-- What keeps an operation from having a request. The template of its path comes first, then its
parameters in order. -/
def Endpoint.fault? (e : Endpoint) : Option GenerationError :=
  match Template.parse e.resource with
  | .error cause => some (.badPath e.resource cause)
  | .ok _ =>
    (e.operation.parameters.findSome? Parameter.misplaced?).map fun misplaced =>
      .unsupportedLocation e.resource e.method misplaced.1 misplaced.2

namespace Request

theorem failure?_ofEndpoint (e : Endpoint) : failure? (ofEndpoint e) = e.fault? := by
  unfold ofEndpoint Endpoint.fault?
  cases Template.parse e.resource with
  | error cause => rfl
  | ok template =>
    simp only [inputsOf_eq]
    cases e.operation.parameters.findSome? Parameter.misplaced? <;> rfl

/-- The request of an operation, with the parts that it was made of. -/
theorem ofEndpoint_eq_ok {e : Endpoint} {r : Request} (h : ofEndpoint e = .ok r) :
    Template.parse e.resource = .ok r.template ∧
      r = ⟨e, r.template, e.operation.parameters.filterMap Parameter.input?,
        e.operation.requestBody.map fun b => ⟨b.description, .ofContent b.content⟩⟩ := by
  unfold ofEndpoint at h
  cases parsed : Template.parse e.resource with
  | error cause =>
    rw [parsed] at h
    cases h
  | ok template =>
    simp only [parsed, inputsOf_eq] at h
    split at h
    · cases h
    · next ok =>
      split at ok
      · cases ok
      · cases ok
        cases h
        exact ⟨rfl, rfl⟩

end Request

end LoadClients

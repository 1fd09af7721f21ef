import LoadClients.Proofs.Request.Identifiers
import LoadClients.Proofs.Request.Payload
import LoadClients.Request.Sending
import LoadClients.Request.Url

/-!
The names that the texts of a request read. The query string, the placeholders of the address that
have a parameter, and the body read what the method declares among its arguments.
-/

namespace LoadClients

/-- The inputs at a place are the parameters there. -/
theorem inputs_at_place (place : Place) (ps : List Parameter) :
    (ps.filterMap Parameter.input?).filter (·.place == place) =
      (ps.filter fun p => p.location.place? = some place).map fun p => ⟨p, place⟩ := by
  induction ps with
  | nil => rfl
  | cons p ps ih =>
    rw [List.filterMap_cons, List.filter_cons]
    cases at_place : p.location.place? with
    | none => simp [Parameter.input?, at_place, ih]
    | some place' =>
      by_cases same : place' = place
      · simp [Parameter.input?, at_place, same, ih]
      · simp [Parameter.input?, at_place, same, ih]

theorem Location.place?_eq_path {l : Location} : l.place? = some .path ↔ l = .path := by
  cases l <;> simp [place?]

theorem Location.place?_eq_query {l : Location} : l.place? = some .query ↔ l = .query := by
  cases l <;> simp [place?]

namespace Operation

theorem identifier_mem {o : Operation} {p : Parameter} (h : p ∈ o.parameters)
    (argument : p.isArgument) : p.identifier ∈ o.identifiers := by
  have mem : p ∈ o.argumentParameters := List.mem_filter.mpr ⟨h, argument⟩
  simp only [identifiers, List.mem_append, List.mem_map, List.mem_filter]
  cases required : p.required with
  | true => exact Or.inl (Or.inl (Or.inl ⟨p, ⟨mem, required⟩, rfl⟩))
  | false => exact Or.inl (Or.inr ⟨p, ⟨mem, by simp [required]⟩, rfl⟩)

theorem body_identifier_mem {o : Operation} {b : RequestBody} (h : o.requestBody = some b) :
    b.identifier ∈ o.identifiers := by
  simp [identifiers, h]

/-- A placeholder that stands for a parameter, where case does not count. -/
def HasPathParameter (o : Operation) (token : String) : Prop :=
  ∃ p ∈ o.parameters, p.location = .path ∧ Text.sameFolded p.name token

end Operation

/-- What a body of a known media type is made of, with the value of an identifier. -/
def bodyExpression (type id : String) : String :=
  if type = Payload.jsonType then "JSON.stringify(" ++ id ++ ")"
  else if type = Payload.formType then id
  else "\x7b\n      file: http.file(" ++ id ++ ", undefined, \"" ++ Payload.octetsType ++
    "\")\n    \x7d"

theorem bodyExpression_json (id : String) :
    bodyExpression Payload.jsonType id = "JSON.stringify(" ++ id ++ ")" := if_pos rfl

theorem bodyExpression_form (id : String) : bodyExpression Payload.formType id = id := by
  rw [bodyExpression, if_neg Payload.types_distinct.1.symm, if_pos rfl]

theorem bodyExpression_octets (id : String) : bodyExpression Payload.octetsType id =
    "\x7b\n      file: http.file(" ++ id ++ ", undefined, \"" ++ Payload.octetsType ++
      "\")\n    \x7d" := by
  rw [bodyExpression, if_neg Payload.types_distinct.2.1.symm,
    if_neg Payload.types_distinct.2.2.symm]

/-- The statement of a payload reads the argument that the payload has. -/
theorem Payload.statement_of_mediaType {p : Payload} {type : String} (h : p.mediaType = some type) :
    p.statement = some ("\n    const body = " ++ bodyExpression type p.argumentName ++ ";") := by
  cases p with
  | other => cases h
  | json schema =>
    cases h
    have front : "\n    const body = JSON.stringify(" = "\n    const body = " ++ "JSON.stringify(" :=
      rfl
    have close : ");" = ")" ++ ";" := rfl
    rw [bodyExpression_json]
    unfold statement
    simp only [front, close, String.append_assoc]
  | form schema =>
    cases h
    rw [bodyExpression_form]
    rfl
  | octets =>
    cases h
    rw [bodyExpression_octets]
    rfl

namespace Request

/-- An identifier that an entry of the untyped arguments declares. -/
def Binds (r : Request) (id : String) : Prop := ∃ entry ∈ r.untypedArguments, Introduces id entry

theorem binds_of_mem {e : Endpoint} {r : Request} (h : ofEndpoint e = .ok r) {id : String}
    (mem : id ∈ e.operation.identifiers) : r.Binds id := by
  rw [← arguments_names h] at mem
  obtain ⟨a, ha, rfl⟩ := List.mem_map.mp mem
  have entry : a.untyped ∈ r.untypedArguments := by
    rw [untypedArguments_eq]
    exact List.mem_map_of_mem ha
  exact ⟨a.untyped, entry, a.introduces_untyped⟩

/-- A request, made of an operation, whose texts read arguments: the query string for each parameter,
where the items of an array are joined, the address for each placeholder that has a parameter, and
the body if it has a known media type. -/
structure ReadsArguments (o : Operation) (r : Request) : Prop where
  query : ∃ pairs, r.queryString = (if pairs.isEmpty then none else some ("&".intercalate pairs)) ∧
    List.Forall₂ (fun p pair => ∃ id, r.Binds id ∧ pair = p.name ++ "=" ++
        hole (if p.schema.isArray then id ++ ".join(\"&" ++ p.name ++ "=\")" else id))
      (o.parameters.filter (·.location = .query)) pairs
  url : ∃ emit : Fragment → String,
    r.url = "`" ++ hole "this.baseUrl" ++ String.join (r.template.segments.map fun s =>
      "/" ++ String.join (s.fragments.map emit)) ++
        (if r.queryString.isSome then "?" ++ hole "qs" else "") ++ "`" ∧
    (∀ text, emit (.literal text) = text) ∧
    ∀ token, o.HasPathParameter token → ∃ id, r.Binds id ∧ emit (.param token) = hole id
  body : ∀ type, (o.requestBody.bind (·.content.sentType?)) = some type → ∃ id, r.Binds id ∧
    r.bodyStatement = some ("\n    const body = " ++ bodyExpression type id ++ ";")

section
variable {e : Endpoint} {r : Request} (h : ofEndpoint e = .ok r)
include h

theorem inputs_query : r.inputs.filter (·.place == .query) =
    (e.operation.parameters.filter (·.location = .query)).map fun p => ⟨p, .query⟩ := by
  obtain ⟨_, parts⟩ := ofEndpoint_eq_ok h
  rw [parts]
  simp only [inputs_at_place, Location.place?_eq_query]

/-- A placeholder reads the first parameter of the path that has its name. -/
theorem pathBinding_eq (token : String) : r.pathBinding token =
    match (e.operation.parameters.filter (·.location = .path)).find? fun p =>
      Text.sameFolded p.name token with
    | some p => p.identifier
    | none => token := by
  obtain ⟨_, parts⟩ := ofEndpoint_eq_ok h
  -- the search over all inputs is one over the inputs of the path, which are parameters
  have first : (r.inputs.find? fun i => i.place == .path && Text.sameFolded i.parameter.name token) =
      (r.inputs.filter (·.place == .path)).find? fun i =>
        Text.sameFolded i.parameter.name token := by
    simp [List.find?_filter, beq_eq_decide]
  unfold pathBinding
  rw [first, parts]
  simp only [inputs_at_place, Location.place?_eq_path, List.find?_map, Function.comp_def]
  cases List.find? _ _ <;> rfl

theorem binds_pathBinding {token : String} (declared : e.operation.HasPathParameter token) :
    r.Binds (r.pathBinding token) := by
  obtain ⟨p, hp, location, same⟩ := declared
  rw [pathBinding_eq h]
  split
  · next q found =>
    obtain ⟨mem, path⟩ := List.mem_filter.mp (List.mem_of_find?_eq_some found)
    exact binds_of_mem h (Operation.identifier_mem mem (by simp_all [Parameter.isArgument]))
  · next missing =>
    have here : p ∈ e.operation.parameters.filter (·.location = .path) :=
      List.mem_filter.mpr ⟨hp, by simp [location]⟩
    exact absurd same (by simpa using List.find?_eq_none.mp missing p here)

/-- What is read for the parameters and the body of an operation is declared among the arguments of
its request. -/
theorem reads_arguments : ReadsArguments e.operation r where
  query := by
    refine ⟨(e.operation.parameters.filter (·.location = .query)).map fun p =>
      Input.queryPair ⟨p, .query⟩, ?_, ?_⟩
    · unfold queryString
      rw [inputs_query h, List.map_map]
      rfl
    · rw [List.forall₂_map_right_iff, List.forall₂_same]
      intro p hp
      obtain ⟨mem, query⟩ := List.mem_filter.mp hp
      refine ⟨p.identifier, binds_of_mem h (Operation.identifier_mem mem ?_), ?_⟩
      · simp_all [Parameter.isArgument]
      · unfold Input.queryPair
        split <;> rfl
  url := by
    refine ⟨r.fragmentUrl, rfl, fun _ => rfl, ?_⟩
    intro token declared
    exact ⟨r.pathBinding token, binds_pathBinding h declared, rfl⟩
  body := by
    intro type sent
    obtain ⟨b, hb, known⟩ := Option.bind_eq_some_iff.mp sent
    obtain ⟨_, parts⟩ := ofEndpoint_eq_ok h
    refine ⟨b.identifier, binds_of_mem h (Operation.body_identifier_mem hb), ?_⟩
    rw [← Payload.mediaType_ofContent] at known
    have statement := Payload.statement_of_mediaType known
    have body : r.body = some ⟨b.description, .ofContent b.content⟩ := by
      rw [parts, hb]
      rfl
    rw [bodyStatement, body, Option.bind_some, statement]
    rfl

end

/-- An operation that reads an argument of each kind. -/
def tasting : Endpoint where
  resource := "/beer/\x7bID\x7d/tasting"
  method := .post
  operation :=
    { tags := ["beer"], summary := none, description := none, operationId := none
      parameters := [⟨"hop-kind", .query, false, none, .array none none⟩,
        ⟨"trace", .header, true, none, Schema.any⟩, ⟨"id", .path, true, none, Schema.any⟩]
      requestBody := some ⟨none, Table.ofList [("application/json", .reference "#/schemas/Note")]⟩
      responses := Table.empty }

theorem reads_arguments_tasting :
    ∃ r, ofEndpoint tasting = .ok r ∧
      r.untypedArguments = ["id", "note", "hopKind", "params = undefined"] ∧
      r.queryString = some "hop-kind=$\x7bhopKind.join(\"&hop-kind=\")\x7d" ∧
      r.url = "`$\x7bthis.baseUrl\x7d/beer/$\x7bid\x7d/tasting?$\x7bqs\x7d`" ∧
      r.bodyStatement = some "\n    const body = JSON.stringify(note);" ∧
      ReadsArguments tasting.operation r := by
  have texts : (ofEndpoint tasting).map
      (fun r => (r.untypedArguments, r.queryString, r.url, r.bodyStatement)) =
        .ok (["id", "note", "hopKind", "params = undefined"],
          some "hop-kind=$\x7bhopKind.join(\"&hop-kind=\")\x7d",
          "`$\x7bthis.baseUrl\x7d/beer/$\x7bid\x7d/tasting?$\x7bqs\x7d`",
          some "\n    const body = JSON.stringify(note);") := by
    decide +kernel
  obtain ⟨r, h, eq⟩ := map_eq_ok_iff.mp texts
  simp only [Prod.mk.injEq] at eq
  obtain ⟨arguments, query, url, body⟩ := eq
  exact ⟨r, h, arguments, query, url, body, reads_arguments h⟩

end Request

end LoadClients

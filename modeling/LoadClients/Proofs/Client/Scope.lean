import LoadClients.Proofs.Client.Statements

/-!
The names in the scope of a method: its arguments, and the constants that it declares. Nothing keeps
them apart. Arguments are named after free text, and names that differ may have one identifier, so
that it takes a condition on the names for the arguments to differ from each other, and another one
for them to differ from the constants.
-/

namespace LoadClients

/-- The body is named after a schema that it refers to. -/
def RequestBody.RefersTo (b : RequestBody) (path : String) : Prop :=
  Payload.ofContent b.content = .json (.reference path)

theorem RequestBody.identifier_of_refersTo {b : RequestBody} {path : String} (h : b.RefersTo path) :
    b.identifier = Naming.camelCase (Naming.referenceName path) := by
  rw [identifier, h]
  rfl

theorem RequestBody.identifier_cases (b : RequestBody) :
    (∃ path, b.RefersTo path) ∨ b.identifier = "payload" ∨ b.identifier = "binFile" := by
  unfold RefersTo identifier
  cases Payload.ofContent b.content with
  | json schema =>
    cases schema with
    | reference path => exact Or.inl ⟨path, rfl⟩
    | _ => exact Or.inr (Or.inl rfl)
  | form => exact Or.inr (Or.inl rfl)
  | octets => exact Or.inr (Or.inr rfl)
  | other => exact Or.inr (Or.inl rfl)

/-- A word that is no fixed name for a body can only be one that a schema gives. -/
theorem RequestBody.identifier_ne_iff {b : RequestBody} (word : String)
    (payload : word ≠ "payload") (binFile : word ≠ "binFile") :
    b.identifier ≠ word ↔
      ∀ path, b.RefersTo path → Naming.camelCase (Naming.referenceName path) ≠ word := by
  constructor
  · intro differs path refers
    rw [← identifier_of_refersTo refers]
    exact differs
  · intro differs
    rcases b.identifier_cases with ⟨path, refers⟩ | fixed | fixed
    · rw [identifier_of_refersTo refers]
      exact differs path refers
    · rw [fixed]
      exact payload.symm
    · rw [fixed]
      exact binFile.symm

namespace Operation
variable {o : Operation}

/-- No parameter is declared twice under its name and location. -/
def DeclaresOnce (o : Operation) : Prop := (o.parameters.map fun p => (p.name, p.location)).Nodup

instance (o : Operation) : Decidable o.DeclaresOnce :=
  inferInstanceAs (Decidable (o.parameters.map fun p => (p.name, p.location)).Nodup)

/-- No two arguments have one identifier. -/
structure IdentifiersApart (o : Operation) : Prop where
  parameters : ∀ p ∈ o.argumentParameters, ∀ q ∈ o.argumentParameters,
    Naming.camelCase p.name = Naming.camelCase q.name → p.name = q.name ∧ p.location = q.location
  body : ∀ b, o.requestBody = some b → ∀ p ∈ o.argumentParameters,
    Naming.camelCase p.name ≠ b.identifier
  options : ∀ p ∈ o.argumentParameters, Naming.camelCase p.name ≠ "params"
  reference : ∀ b path, o.requestBody = some b → b.RefersTo path →
    Naming.camelCase (Naming.referenceName path) ≠ "params"

theorem identifiers_perm (o : Operation) :
    o.identifiers.Perm (o.argumentParameters.map Parameter.identifier ++
      ((o.requestBody.map RequestBody.identifier).toList ++ ["params"])) := by
  let required := (o.argumentParameters.filter (·.required)).map Parameter.identifier
  let optional := (o.argumentParameters.filter (!·.required)).map Parameter.identifier
  let body := (o.requestBody.map RequestBody.identifier).toList
  have parameters :
      (required ++ optional).Perm (o.argumentParameters.map Parameter.identifier) := by
    rw [← List.map_append]
    exact (List.filter_append_perm (·.required) o.argumentParameters).map Parameter.identifier
  calc o.identifiers
    _ = required ++ (body ++ (optional ++ ["params"])) := by
      simp only [identifiers, required, optional, body, List.append_assoc]
    _ |>.Perm (required ++ (optional ++ (body ++ ["params"]))) := by
      rw [← List.append_assoc body, ← List.append_assoc optional]
      exact ((List.perm_append_comm).append_right _).append_left _
    _ |>.Perm (o.argumentParameters.map Parameter.identifier ++ (body ++ ["params"])) := by
      rw [← List.append_assoc]
      exact parameters.append_right _

theorem mem_identifiers_iff {id : String} : id ∈ o.identifiers ↔
    (∃ p ∈ o.argumentParameters, Naming.camelCase p.name = id) ∨
      (∃ b, o.requestBody = some b ∧ b.identifier = id) ∨ id = "params" := by
  rw [o.identifiers_perm.mem_iff]
  simp only [List.mem_append, List.mem_map, Option.mem_toList, Option.map_eq_some_iff,
    List.mem_singleton]
  rfl

/-- Where no parameter is declared twice, identifiers of parameters differ as far as names and
locations do. -/
theorem nodup_parameter_identifiers_iff (distinct : o.DeclaresOnce) :
    (o.argumentParameters.map Parameter.identifier).Nodup ↔
      ∀ p ∈ o.argumentParameters, ∀ q ∈ o.argumentParameters,
        Naming.camelCase p.name = Naming.camelCase q.name →
          p.name = q.name ∧ p.location = q.location := by
  have keys : (o.argumentParameters.map fun p => (p.name, p.location)).Nodup :=
    List.Nodup.sublist (List.filter_sublist.map _) distinct
  constructor
  · intro nodup p hp q hq same
    rw [List.inj_on_of_nodup_map nodup hp hq same]
    exact ⟨rfl, rfl⟩
  · intro apart
    refine keys.of_map.map_on ?_
    intro p hp q hq same
    obtain ⟨name, location⟩ := apart p hp q hq same
    exact List.inj_on_of_nodup_map keys hp hq (Prod.ext name location)

theorem nodup_identifiers_iff (distinct : o.DeclaresOnce) :
    o.identifiers.Nodup ↔ o.IdentifiersApart := by
  have others : ((o.requestBody.map RequestBody.identifier).toList ++ ["params"]).Nodup ↔
      ∀ b, o.requestBody = some b → b.identifier ≠ "params" := by
    cases o.requestBody <;> simp
  have references : (∀ b, o.requestBody = some b → b.identifier ≠ "params") ↔
      ∀ b path, o.requestBody = some b → b.RefersTo path →
        Naming.camelCase (Naming.referenceName path) ≠ "params" := by
    simp only [RequestBody.identifier_ne_iff "params" (by decide) (by decide)]
    exact ⟨fun h b path given => h b given path, fun h b given path => h b path given⟩
  rw [o.identifiers_perm.nodup_iff, List.nodup_append, nodup_parameter_identifiers_iff distinct,
    others, references]
  constructor
  · rintro ⟨parameters, reference, apart⟩
    refine ⟨parameters, ?_, ?_, reference⟩
    · intro b hb p hp
      exact apart _ (List.mem_map_of_mem hp) _ (by simp [hb])
    · intro p hp
      exact apart _ (List.mem_map_of_mem hp) _ (by simp)
  · rintro ⟨parameters, body, options, reference⟩
    refine ⟨parameters, reference, ?_⟩
    intro a ha id hid
    obtain ⟨p, hp, rfl⟩ := List.mem_map.mp ha
    simp only [List.mem_append, Option.mem_toList, Option.map_eq_some_iff,
      List.mem_singleton] at hid
    rcases hid with ⟨b, hb, rfl⟩ | rfl
    · exact body b hb p hp
    · exact options p hp

end Operation

namespace Endpoint
variable {e : Endpoint}

theorem constants_sublist (e : Endpoint) : e.constants.Sublist ["qs", "body", "res"] := by
  unfold constants
  split <;> split <;> decide

/-- No argument is named like a constant of the method. -/
structure ConstantsApart (e : Endpoint) : Prop where
  parameters : ∀ p ∈ e.operation.argumentParameters, Naming.camelCase p.name ∉ e.constants
  reference : ∀ b path, e.operation.requestBody = some b → b.RefersTo path →
    Naming.camelCase (Naming.referenceName path) ∉ e.constants

theorem constantsApart_iff :
    (∀ id ∈ e.operation.identifiers, id ∉ e.constants) ↔ e.ConstantsApart := by
  have others : ∀ word ∈ ["payload", "binFile", "params"], word ∉ ["qs", "body", "res"] := by decide
  have fixed : ∀ word ∈ ["payload", "binFile", "params"], word ∉ e.constants :=
    fun word other constant => others word other (e.constants_sublist.subset constant)
  constructor
  · intro apart
    refine ⟨?_, ?_⟩
    · intro p hp
      exact apart _ (Operation.mem_identifiers_iff.mpr (Or.inl ⟨p, hp, rfl⟩))
    · intro b path hb refers
      rw [← RequestBody.identifier_of_refersTo refers]
      exact apart _ (Operation.body_identifier_mem hb)
  · rintro ⟨parameters, reference⟩ id mem
    rcases Operation.mem_identifiers_iff.mp mem with ⟨p, hp, rfl⟩ | ⟨b, hb, rfl⟩ | rfl
    · exact parameters p hp
    · rcases b.identifier_cases with ⟨path, refers⟩ | payload | binFile
      · rw [RequestBody.identifier_of_refersTo refers]
        exact reference b path hb refers
      · exact fixed _ (by simp [payload])
      · exact fixed _ (by simp [binFile])
    · exact fixed _ (by simp)

end Endpoint

namespace ClientMethod

/-- A method declares `res`, and besides it `qs` if it has parameters of the query, and `body` if it
makes a body. Where no parameter is declared twice, its arguments differ exactly if the identifiers
made of their names do, and they differ from its constants exactly if none of these identifiers is
one. A body that is not named after a schema is never in the way. -/
theorem scope_apart_iff {e : Endpoint} {m : ClientMethod}
    (made : Request.ofEndpoint e = .ok m.request) (distinct : e.operation.DeclaresOnce) :
    (m.source = "\n  " ++ m.name ++ "(" ++ ", ".intercalate m.request.untypedArguments ++ ")" ++
        " \x7b" ++ String.join (m.body.map Statement.text) ++ "\n  \x7d" ∧
      (∀ s ∈ m.body, s.Sound) ∧ m.constants = e.constants) ∧
    ((m.request.arguments.map Argument.name).Nodup ↔ e.operation.IdentifiersApart) ∧
    ((∀ id ∈ m.request.arguments.map Argument.name, id ∉ m.constants) ↔ e.ConstantsApart) := by
  have declared := m.constants_eq made
  refine ⟨⟨?_, m.sound_body, declared⟩, ?_, ?_⟩
  · rw [m.source_eq, m.statements_eq_body]
  · rw [Request.arguments_names made]
    exact Operation.nodup_identifiers_iff distinct
  · rw [Request.arguments_names made, declared]
    exact Endpoint.constantsApart_iff

/-- An operation with parameters that are declared under their names and locations. -/
def mixing (method : Method) (parameters : List (String × Location)) : Endpoint where
  resource := "/mix"
  method := method
  operation :=
    { tags := ["mix"], summary := none, description := none, operationId := none
      parameters := parameters.map fun p => ⟨p.1, p.2, true, none, Schema.any⟩
      requestBody := some ⟨none, Table.ofList [("application/json", .reference "#/schemas/Beer")]⟩
      responses := Table.empty }

/-- Two parameters that differ in their separators. -/
def versions : Endpoint := mixing .get [("api-version", .query), ("api_version", .query)]

/-- A parameter with the name of a constant. -/
def bodies : Endpoint := mixing .put [("body", .query)]

theorem clash_of_different_parameters :
    (∃ r, Request.ofEndpoint versions = .ok r ∧ versions.operation.DeclaresOnce ∧
      r.untypedArguments = ["apiVersion", "apiVersion", "beer", "params = undefined"] ∧
      ¬ (r.arguments.map Argument.name).Nodup) ∧
    ∃ m : ClientMethod, Request.ofEndpoint bodies = .ok m.request ∧ bodies.operation.DeclaresOnce ∧
      m.request.untypedArguments = ["body", "beer", "params = undefined"] ∧
      m.constants = ["qs", "body", "res"] ∧
      ∃ id ∈ m.request.arguments.map Argument.name, id ∈ m.constants := by
  constructor
  · have names : (Request.ofEndpoint versions).map
        (fun r => (r.untypedArguments, r.arguments.map Argument.name)) =
        .ok (["apiVersion", "apiVersion", "beer", "params = undefined"],
          ["apiVersion", "apiVersion", "beer", "params"]) := by
      decide +kernel
    obtain ⟨r, made, eq⟩ := map_eq_ok_iff.mp names
    obtain ⟨untyped, identifiers⟩ := Prod.mk.inj eq
    refine ⟨r, made, by decide +kernel, untyped, ?_⟩
    rw [identifiers]
    decide
  · have names : (Request.ofEndpoint bodies).map
        (fun r => (r.untypedArguments, r.arguments.map Argument.name)) =
        .ok (["body", "beer", "params = undefined"], ["body", "beer", "params"]) := by
      decide +kernel
    obtain ⟨r, made, eq⟩ := map_eq_ok_iff.mp names
    obtain ⟨untyped, identifiers⟩ := Prod.mk.inj eq
    let m : ClientMethod := ⟨"MixClient", "mix", r⟩
    have constants : m.constants = ["qs", "body", "res"] := by
      rw [m.constants_eq made]
      decide +kernel
    refine ⟨m, made, by decide +kernel, untyped, constants, "body", ?_, ?_⟩
    · rw [identifiers]
      decide
    · rw [constants]
      decide

/-- Parameters of both places, and a body that is named after its schema. -/
def blends : Endpoint := mixing .put [("api-version", .query), ("id", .path)]

theorem scope_apart_iff_blends :
    ∃ m : ClientMethod, Request.ofEndpoint blends = .ok m.request ∧ blends.operation.DeclaresOnce ∧
      m.request.arguments.map Argument.name = ["apiVersion", "id", "beer", "params"] ∧
      m.constants = ["qs", "body", "res"] ∧ blends.operation.IdentifiersApart ∧
      blends.ConstantsApart := by
  have names : (Request.ofEndpoint blends).map (fun r => r.arguments.map Argument.name) =
      .ok ["apiVersion", "id", "beer", "params"] := by
    decide +kernel
  have distinct : blends.operation.DeclaresOnce := by decide +kernel
  obtain ⟨r, made, identifiers⟩ := map_eq_ok_iff.mp names
  let m : ClientMethod := ⟨"MixClient", "mix", r⟩
  have constants : m.constants = ["qs", "body", "res"] := by
    rw [m.constants_eq made]
    decide +kernel
  obtain ⟨_, arguments, scope⟩ := scope_apart_iff (m := m) made distinct
  refine ⟨m, made, distinct, identifiers, constants, arguments.mp ?_, scope.mp ?_⟩
  · change (r.arguments.map Argument.name).Nodup
    rw [identifiers]
    decide
  · change ∀ id ∈ r.arguments.map Argument.name, id ∉ m.constants
    rw [identifiers, constants]
    decide

end ClientMethod

end LoadClients

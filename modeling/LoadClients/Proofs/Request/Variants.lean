import LoadClients.Proofs.Request.Address

/-!
Parameters of a path whose names differ in case only. A placeholder reads the first of them that is
declared, even if another one has its very name.
-/

namespace LoadClients

/-- The parameter stands for a placeholder: it is one of the path, and it has the name of the
placeholder, where case does not count. -/
def Parameter.standsFor (token : String) (p : Parameter) : Bool :=
  p.location = .path ∧ Text.sameFolded p.name token

theorem Parameter.standsFor_own_name {p : Parameter} (path : p.location = .path) :
    p.standsFor p.name := by
  simp [standsFor, path, Text.sameFolded_refl]

namespace Operation
variable {o : Operation}

theorem reading_of_find? {token : String} {p : Parameter}
    (first : o.parameters.find? (Parameter.standsFor token) = some p) :
    o.reading token = Naming.camelCase p.name := by
  have found : ((o.parameters.filter (·.location = .path)).find? fun p =>
      Text.sameFolded p.name token) = some p := by
    rw [List.find?_filter, ← first]
    congr 1
    funext p
    simp [Parameter.standsFor]
  rw [reading, found]

/-- Of the parameters in front of one that has the name of a placeholder, the first that stands for
the placeholder is read instead. What is declared later does not matter. -/
theorem reading_of_own_name {before after : List Parameter} {p : Parameter}
    (declared : o.parameters = before ++ p :: after) (path : p.location = .path) :
    o.reading p.name =
      Naming.camelCase ((before.find? (Parameter.standsFor p.name)).getD p).name := by
  apply reading_of_find?
  rw [declared, List.find?_append, List.find?_cons_of_pos (Parameter.standsFor_own_name path)]
  cases before.find? (Parameter.standsFor p.name) <;> rfl

/-- The own parameter of a placeholder is read exactly if no parameter in front of it stands for the
placeholder, or the first that does has the same identifier. -/
theorem reads_own_iff {before after : List Parameter} {p : Parameter}
    (declared : o.parameters = before ++ p :: after) (path : p.location = .path) :
    o.reading p.name = Naming.camelCase p.name ↔
      ∀ q, before.find? (Parameter.standsFor p.name) = some q →
        Naming.camelCase q.name = Naming.camelCase p.name := by
  rw [reading_of_own_name declared path]
  cases before.find? (Parameter.standsFor p.name) with
  | none => simp
  | some q => simp

end Operation

namespace Request

/-- The address reads for each placeholder the first parameter that stands for it. A parameter that
has the very name of a placeholder is read whatever is declared behind it, and unless another one
with another identifier is declared in front of it. -/
theorem url_reads_first_variant {e : Endpoint} {r : Request} (h : ofEndpoint e = .ok r) :
    ∃ pattern : Pattern, (pattern.Plain ∧ e.resource = pattern.text) ∧
      r.url = "`" ++ hole "this.baseUrl" ++
        pattern.fill (fun token => hole (e.operation.reading token)) ++
        (if r.queryString.isSome then "?" ++ hole "qs" else "") ++ "`" ∧
      ∀ before p after, e.operation.parameters = before ++ p :: after → p.location = .path →
        e.operation.reading p.name =
          Naming.camelCase ((before.find? (Parameter.standsFor p.name)).getD p).name ∧
        (e.operation.reading p.name = Naming.camelCase p.name ↔
          ∀ q, before.find? (Parameter.standsFor p.name) = some q →
            Naming.camelCase q.name = Naming.camelCase p.name) := by
  obtain ⟨parsed, _⟩ := ofEndpoint_eq_ok h
  obtain ⟨pattern, _⟩ := Template.existsUnique_pattern parsed
  refine ⟨r.template.pattern, pattern, ?_, ?_⟩
  · rw [url_eq_fill, pathBinding_eq_reading h]
  · intro before p after declared path
    exact ⟨Operation.reading_of_own_name declared path, Operation.reads_own_iff declared path⟩

/-- A parameter of the path. -/
def parameter (name : String) : Parameter := ⟨name, .path, true, none, Schema.any⟩

/-- An operation at a keg, with parameters of the path. -/
def draining (names : List String) : Endpoint where
  resource := "/keg/\x7bid\x7d"
  method := .get
  operation :=
    { tags := ["keg"], summary := none, description := none, operationId := none
      parameters := names.map parameter
      requestBody := none
      responses := Table.empty }

/-- The parameter with the very name of the placeholder comes second, and is not read. -/
theorem variant_read_before_own_name :
    ∃ r, ofEndpoint (draining ["ID", "id"]) = .ok r ∧
      (∃ p ∈ (draining ["ID", "id"]).operation.parameters, p.location = .path ∧ p.name = "id") ∧
      r.untypedArguments = ["iD", "id", "params = undefined"] ∧
      r.url = "`$\x7bthis.baseUrl\x7d/keg/$\x7biD\x7d`" ∧
      Naming.camelCase "id" ≠ "iD" := by
  have texts : (ofEndpoint (draining ["ID", "id"])).map (fun r => (r.untypedArguments, r.url)) =
      .ok (["iD", "id", "params = undefined"],
        "`$\x7bthis.baseUrl\x7d/keg/$\x7biD\x7d`") := by
    decide +kernel
  obtain ⟨r, h, eq⟩ := map_eq_ok_iff.mp texts
  obtain ⟨arguments, url⟩ := Prod.mk.inj eq
  exact ⟨r, h, ⟨parameter "id", by simp [draining], rfl, rfl⟩, arguments, url, by decide +kernel⟩

/-- A variant with the same identifier comes first, and the variant behind it does not matter. -/
theorem url_reads_first_variant_draining :
    ∃ r, ofEndpoint (draining ["Id", "ID", "id"]) = .ok r ∧
      r.url = "`$\x7bthis.baseUrl\x7d/keg/$\x7bid\x7d`" ∧
      (draining ["Id", "ID", "id"]).operation.reading "id" = Naming.camelCase "id" := by
  have made : (ofEndpoint (draining ["Id", "ID", "id"])).map (·.url) =
      .ok "`$\x7bthis.baseUrl\x7d/keg/$\x7bid\x7d`" := by
    decide +kernel
  obtain ⟨r, h, url⟩ := map_eq_ok_iff.mp made
  obtain ⟨_, _, _, own⟩ := url_reads_first_variant h
  have variant : (parameter "Id").standsFor (parameter "id").name := by decide +kernel
  refine ⟨r, h, url, (own [parameter "Id", parameter "ID"] (parameter "id") [] rfl rfl).2.mpr ?_⟩
  intro q first
  rw [List.find?_cons_of_pos variant] at first
  cases first
  decide +kernel

end Request

end LoadClients

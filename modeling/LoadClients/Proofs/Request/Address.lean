import LoadClients.Proofs.Request.Reads
import LoadClients.Proofs.Template.Pattern

/-!
The address of a request. It is the path of the operation with an interpolation for each name in
braces, and with the query string behind it if there is one. All other text of the path is kept.
-/

namespace LoadClients

/-- What a name in a path reads: the argument of the first path parameter with that name, where case
does not count, or else what the name says. -/
def Operation.reading (o : Operation) (token : String) : String :=
  match (o.parameters.filter (·.location = .path)).find? fun p => Text.sameFolded p.name token with
  | some p => Naming.camelCase p.name
  | none => token

namespace Request

theorem fragmentUrl_eq_fill (r : Request) (f : Fragment) :
    r.fragmentUrl f = f.fill fun token => hole (r.pathBinding token) := by
  cases f <;> rfl

theorem url_eq_fill (r : Request) :
    r.url = "`" ++ hole "this.baseUrl" ++
      r.template.pattern.fill (fun token => hole (r.pathBinding token)) ++
        (if r.queryString.isSome then "?" ++ hole "qs" else "") ++ "`" := by
  have fragments : r.fragmentUrl = Fragment.fill fun token => hole (r.pathBinding token) :=
    funext r.fragmentUrl_eq_fill
  rw [Template.fill_pattern, ← fragments]
  rfl

section
variable {e : Endpoint} {r : Request} (h : ofEndpoint e = .ok r)
include h

theorem pathBinding_eq_reading : r.pathBinding = e.operation.reading :=
  funext (pathBinding_eq h)

theorem queryString_isSome :
    r.queryString.isSome = e.operation.parameters.any (·.location = .query) := by
  unfold queryString
  rw [inputs_query h, Bool.eq_iff_iff]
  simp

/-- The path of an operation is a text with holes in one way only, and its address is that text with
each hole filled by what its name reads. The query string follows exactly if there are parameters
for it. -/
theorem url_fills_path :
    ∃ p : Pattern, (p.Plain ∧ e.resource = p.text) ∧
      (∀ q : Pattern, q.Plain → e.resource = q.text → q = p) ∧
      r.url = "`$\x7bthis.baseUrl\x7d" ++ p.fill (fun token => hole (e.operation.reading token)) ++
        (if e.operation.parameters.any (·.location = .query) then "?$\x7bqs\x7d" else "") ++ "`" := by
  obtain ⟨parsed, _⟩ := ofEndpoint_eq_ok h
  obtain ⟨pattern, only⟩ := Template.existsUnique_pattern parsed
  have opening : "`" ++ hole "this.baseUrl" = "`$\x7bthis.baseUrl\x7d" := by decide
  have query : "?" ++ hole "qs" = "?$\x7bqs\x7d" := by decide
  refine ⟨r.template.pattern, pattern, only, ?_⟩
  rw [url_eq_fill, opening, query, pathBinding_eq_reading h, queryString_isSome h]

end

/-- A path with empty segments, a slash between braces, and names that differ in case. The parameter
of the query does not count for them. -/
def tapping : Endpoint where
  resource := "//keg\x7ba/B\x7d-\x7bID\x7d/\x7bid\x7d/"
  method := .get
  operation :=
    { tags := ["keg"], summary := none, description := none, operationId := none
      parameters := [⟨"Id", .query, true, none, Schema.any⟩, ⟨"iD", .path, true, none, Schema.any⟩,
        ⟨"id", .path, true, none, Schema.any⟩]
      requestBody := none
      responses := Table.empty }

theorem url_fills_path_tapping :
    ∃ r, ofEndpoint tapping = .ok r ∧
      r.url = "`$\x7bthis.baseUrl\x7d//keg$\x7ba/B\x7d-$\x7biD\x7d/$\x7biD\x7d/?$\x7bqs\x7d`" ∧
      ∃ p : Pattern, p = ⟨"//keg", [("a/B", "-"), ("ID", "/"), ("id", "/")]⟩ ∧
        (p.Plain ∧ tapping.resource = p.text) ∧
        (∀ q : Pattern, q.Plain → tapping.resource = q.text → q = p) ∧
        r.url = "`$\x7bthis.baseUrl\x7d" ++
          p.fill (fun token => hole (tapping.operation.reading token)) ++
          (if tapping.operation.parameters.any (·.location = .query) then "?$\x7bqs\x7d" else "") ++
            "`" := by
  have made : (ofEndpoint tapping).map (fun r => (r.url, r.template.pattern)) =
      .ok ("`$\x7bthis.baseUrl\x7d//keg$\x7ba/B\x7d-$\x7biD\x7d/$\x7biD\x7d/?$\x7bqs\x7d`",
        ⟨"//keg", [("a/B", "-"), ("ID", "/"), ("id", "/")]⟩) := by
    decide +kernel
  obtain ⟨r, h, eq⟩ := map_eq_ok_iff.mp made
  obtain ⟨url, pattern⟩ := Prod.mk.inj eq
  obtain ⟨p, plain, only, filled⟩ := url_fills_path h
  obtain ⟨parsed, _⟩ := ofEndpoint_eq_ok h
  obtain ⟨own, _⟩ := Template.existsUnique_pattern parsed
  have same : p = r.template.pattern := (only _ own.1 own.2).symm
  exact ⟨r, h, url, p, same.trans pattern, plain, only, filled⟩

end Request

end LoadClients

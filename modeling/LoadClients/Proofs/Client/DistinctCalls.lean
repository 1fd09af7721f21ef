import LoadClients.Client
import LoadClients.Proofs.CallSpace.Assign
import LoadClients.Proofs.Results

/-!
The methods of a client. There is one for each operation, in the order of the operations, and no two
have the same call.
-/

namespace LoadClients

theorem Request.endpoint_of_ofEndpoint {e : Endpoint} {r : Request}
    (h : Request.ofEndpoint e = .ok r) : r.endpoint = e := by
  unfold ofEndpoint at h
  split at h
  · cases h
  · split at h
    · cases h
    · cases h
      rfl

theorem Request.endpoints_of_map_ofEndpoint {es : List Endpoint} {rs : List Request}
    (h : es.map Request.ofEndpoint = rs.map .ok) : rs.map (·.endpoint) = es := by
  induction es generalizing rs with
  | nil =>
    rw [List.map_eq_nil_iff.mp h.symm]
    rfl
  | cons e es ih =>
    cases rs with
    | nil => cases h
    | cons r rs =>
      obtain ⟨head, tail⟩ := List.cons.inj h
      rw [List.map_cons, endpoint_of_ofEndpoint head, ih tail]

section
variable (tag : String)

theorem nameMethods_requests (s : CallSpace) (rs : List Request) :
    (nameMethods tag s rs).map (·.request) = rs := by
  induction rs generalizing s with
  | nil => rfl
  | cons r rs ih =>
    simp only [nameMethods, List.map_cons]
    rw [ih]

theorem not_taken_of_mem_nameMethods {s : CallSpace} {rs : List Request} {m : ClientMethod}
    (h : m ∈ nameMethods tag s rs) : ¬ s.taken m.call := by
  induction rs generalizing s with
  | nil => cases h
  | cons r rs ih =>
    rcases List.mem_cons.mp h with rfl | later
    · exact s.not_taken_assign _ _
    · intro taken
      exact ih later ((s.taken_assign_iff _ _ _).mpr (Or.inr taken))

theorem nodup_calls_nameMethods (s : CallSpace) (rs : List Request) :
    ((nameMethods tag s rs).map ClientMethod.call).Nodup := by
  induction rs generalizing s with
  | nil => exact List.nodup_nil
  | cons r rs ih =>
    simp only [nameMethods, List.map_cons]
    rw [List.nodup_cons]
    refine ⟨?_, ih _⟩
    intro again
    obtain ⟨m, hm, same⟩ := List.mem_map.mp again
    have free := not_taken_of_mem_nameMethods tag hm
    rw [same] at free
    exact free ((s.taken_assign_iff _ _ _).mpr (Or.inl rfl))

theorem name_of_mem_nameMethods {s : CallSpace} (hs : s.Counted) {rs : List Request}
    {m : ClientMethod} (h : m ∈ nameMethods tag s rs) :
    m.name = m.request.baseName tag ∨
      ∃ k, 2 ≤ k ∧ m.name = numbered (m.request.baseName tag) k := by
  induction rs generalizing s with
  | nil => cases h
  | cons r rs ih =>
    rcases List.mem_cons.mp h with rfl | later
    · exact hs.assign_name (r.baseName tag) (ClientMethod.argumentText r)
    · exact ih (hs.assign _ _) later

end

namespace Client

theorem generate_eq_ok_iff {tag : String} {es : List Endpoint} {c : Client} :
    generate tag es = .ok c ↔ ∃ rs, es.map Request.ofEndpoint = rs.map .ok ∧
      c = ⟨classNameOf tag, nameMethods tag CallSpace.empty rs⟩ := by
  unfold generate
  rw [bind_eq_ok_iff]
  constructor
  · rintro ⟨rs, hr, h⟩
    cases h
    exact ⟨rs, mapM_eq_ok_iff.mp hr, rfl⟩
  · rintro ⟨rs, hr, rfl⟩
    exact ⟨rs, mapM_eq_ok_iff.mpr hr, rfl⟩

theorem requests_of_generate {tag : String} {es : List Endpoint} {c : Client}
    (h : generate tag es = .ok c) :
    es.map Request.ofEndpoint = (c.methods.map (·.request)).map .ok := by
  obtain ⟨rs, hr, rfl⟩ := generate_eq_ok_iff.mp h
  rw [hr, nameMethods_requests]

theorem endpoints_of_generate {tag : String} {es : List Endpoint} {c : Client}
    (h : generate tag es = .ok c) : c.methods.map (·.request.endpoint) = es := by
  have requests := Request.endpoints_of_map_ofEndpoint (requests_of_generate h)
  rwa [List.map_map] at requests

/-- The methods of a client are the operations in order, under calls that are all different. -/
theorem generate_calls_distinct {tag : String} {es : List Endpoint} {c : Client}
    (h : generate tag es = .ok c) :
    es.map Request.ofEndpoint = (c.methods.map (·.request)).map .ok ∧
      c.methods.map (·.request.endpoint) = es ∧
      (c.methods.map ClientMethod.call).Nodup ∧
      ∀ m ∈ c.methods, m.name = m.request.baseName tag ∨
        ∃ k, 2 ≤ k ∧ m.name = numbered (m.request.baseName tag) k := by
  refine ⟨requests_of_generate h, endpoints_of_generate h, ?_, ?_⟩
  · obtain ⟨rs, _, rfl⟩ := generate_eq_ok_iff.mp h
    exact nodup_calls_nameMethods tag CallSpace.empty rs
  · obtain ⟨rs, _, rfl⟩ := generate_eq_ok_iff.mp h
    intro m hm
    exact name_of_mem_nameMethods tag CallSpace.counted_empty hm

/-- Operations that differ in their identifiers only. -/
def withIds (ids : List String) : List Endpoint :=
  ids.map fun id =>
    ⟨"/beer", .get, ⟨["beer"], none, none, some id, [], none, Table.empty⟩⟩

theorem generate_lookalikes :
    ∃ c, generate "beer" (withIds ["count2", "count", "count", "count2"]) = .ok c ∧
      c.methods.map (·.name) = ["count2", "count", "count3", "count22"] ∧
      (withIds ["count2", "count", "count", "count2"]).map Request.ofEndpoint =
        (c.methods.map (·.request)).map .ok ∧
      c.methods.map (·.request.endpoint) = withIds ["count2", "count", "count", "count2"] ∧
      (c.methods.map ClientMethod.call).Nodup ∧
      ∀ m ∈ c.methods, m.name = m.request.baseName "beer" ∨
        ∃ k, 2 ≤ k ∧ m.name = numbered (m.request.baseName "beer") k := by
  have names : (generate "beer" (withIds ["count2", "count", "count", "count2"])).map
      (fun c => c.methods.map (·.name)) = .ok ["count2", "count", "count3", "count22"] := by
    decide +kernel
  obtain ⟨c, h, eq⟩ := map_eq_ok_iff.mp names
  exact ⟨c, h, eq, generate_calls_distinct h⟩

end Client

end LoadClients

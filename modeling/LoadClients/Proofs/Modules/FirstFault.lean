import LoadClients.Proofs.Modules.ClientsByTag
import LoadClients.Proofs.Request.Faults

/-!
The fault that is reported for a document. An operation without tags comes before all other faults,
and of several the first in the document. The other faults are looked for client by client: those of
a client that is first tagged late wait, even when they stand early in the document.
-/

namespace LoadClients

def Endpoint.untagged (e : Endpoint) : Bool := e.operation.tags.isEmpty

theorem Endpoint.firstTag_of_tagged {e : Endpoint} (h : ¬ e.untagged) :
    ∃ tag rest, e.operation.tags = tag :: rest ∧ e.firstTag = some tag := by
  unfold untagged at h
  cases tags : e.operation.tags with
  | nil => simp [tags] at h
  | cons tag rest => exact ⟨tag, rest, rfl, by rw [firstTag, tags, List.head?_cons]⟩

/-- Operations by the place at which their first tag first appears, and of one tag in their own
order. -/
def inClientOrder (es : List Endpoint) : List Endpoint :=
  (tagsOf es).flatMap fun tag => withTag tag es

theorem inClientOrder_perm {es : List Endpoint} (h : ∀ e ∈ es, ¬ e.untagged) :
    (inClientOrder es).Perm es := by
  apply flatMap_filter_perm (nodup_eraseDups _)
  intro e he
  obtain ⟨tag, _, _, first⟩ := Endpoint.firstTag_of_tagged (h e he)
  exact ⟨tag, mem_tagsOf.mpr ⟨e, he, first⟩, first⟩

theorem groupByTag_eq_error {es : List Endpoint} {e : Endpoint}
    (h : es.find? Endpoint.untagged = some e) (groups : Table String (List Endpoint)) :
    groupByTag groups es = .error (.untagged e.resource e.method) := by
  induction es generalizing groups with
  | nil => cases h
  | cons e' es ih =>
    unfold groupByTag
    cases tags : e'.operation.tags with
    | nil =>
      rw [List.find?_cons_of_pos (by simp [Endpoint.untagged, tags])] at h
      cases h
      rfl
    | cons tag rest =>
      rw [List.find?_cons_of_neg (by simp [Endpoint.untagged, tags])] at h
      exact ih h _

theorem exists_groupByTag {es : List Endpoint} (h : ∀ e ∈ es, ¬ e.untagged)
    (groups : Table String (List Endpoint)) : ∃ result, groupByTag groups es = .ok result := by
  induction es generalizing groups with
  | nil => exact ⟨groups, rfl⟩
  | cons e es ih =>
    obtain ⟨tag, rest, tags, _⟩ := Endpoint.firstTag_of_tagged (h e (by simp))
    unfold groupByTag
    simp only [tags]
    exact ih (fun e' he => h e' (by simp [he])) _

namespace Client

theorem failure?_generate (tag : String) (es : List Endpoint) :
    failure? (generate tag es) = es.findSome? Endpoint.fault? := by
  have same : generate tag es =
      (es.mapM Request.ofEndpoint).map fun rs =>
        ⟨classNameOf tag, nameMethods tag CallSpace.empty rs⟩ := by
    unfold generate
    cases es.mapM Request.ofEndpoint <;> rfl
  rw [same, failure?_map, failure?_mapM]
  simp only [Request.failure?_ofEndpoint]

end Client

namespace Modules

/-- The clients of a document are made tag by tag, unless an operation has no tags. -/
theorem clientsOf_eq (d : Document) :
    clientsOf d =
      match d.endpoints.find? Endpoint.untagged with
      | some e => .error (.untagged e.resource e.method)
      | none => d.firstTags.mapM fun tag => Client.generate tag (d.endpointsOf tag) := by
  unfold clientsOf
  split
  · next e untagged =>
    rw [groupByTag_eq_error untagged]
    rfl
  · next tagged =>
    obtain ⟨groups, hg⟩ := exists_groupByTag (List.find?_eq_none.mp tagged) Table.empty
    obtain ⟨collected, _⟩ := Collected.empty.groupByTag hg
    rw [hg]
    -- what is left of the groups is a list of tags, each with its operations
    change (groups.entries.mapM fun g => Client.generate g.1 g.2) = _
    rw [collected.entries, List.nil_append, List.mapM_map]
    rfl

theorem failure?_clientsOf (d : Document) (h : d.endpoints.find? Endpoint.untagged = none) :
    failure? (clientsOf d) = (inClientOrder d.endpoints).findSome? Endpoint.fault? := by
  rw [clientsOf_eq, h]
  simp only [failure?_mapM, Client.failure?_generate]
  exact (findSome?_flatMap ..).symm

theorem failure?_generate (d : Document) : failure? (generate d) = failure? (clientsOf d) := by
  unfold generate
  cases clientsOf d <;> rfl

/-- The first operation without tags is the fault of a document that has one. Of other documents it
is the first operation in the order of the clients that has a fault, and without one there are
modules. -/
theorem generate_reports_first_fault (d : Document) :
    match d.endpoints.find? Endpoint.untagged with
    | some e => generate d = .error (.untagged e.resource e.method)
    | none =>
      (inClientOrder d.endpoints).Perm d.endpoints ∧
        match (inClientOrder d.endpoints).findSome? Endpoint.fault? with
        | some fault => generate d = .error fault
        | none => ∃ m, generate d = .ok m := by
  cases untagged : d.endpoints.find? Endpoint.untagged with
  | some e =>
    have reported : failure? (generate d) = some (.untagged e.resource e.method) := by
      rw [failure?_generate, clientsOf_eq, untagged]
      rfl
    exact failure?_eq_some_iff.mp reported
  | none =>
    refine ⟨inClientOrder_perm (List.find?_eq_none.mp untagged), ?_⟩
    have reported : failure? (generate d) =
        (inClientOrder d.endpoints).findSome? Endpoint.fault? := by
      rw [failure?_generate, failure?_clientsOf d untagged]
    cases fault : (inClientOrder d.endpoints).findSome? Endpoint.fault? with
    | some f => exact failure?_eq_some_iff.mp (reported.trans fault)
    | none => exact failure?_eq_none_iff.mp (reported.trans fault)

/-- Three paths, of which the last two have a misplaced parameter each. The last is tagged like the
first. -/
def crossed : Document where
  openapi := "3.0.0"
  info := ⟨"Beer", none, "1"⟩
  paths :=
    let tagged (tag : String) (ps : List Parameter) : PathItem :=
      Table.ofList [(.get, ⟨[tag], none, none, none, ps, none, Table.empty⟩)]
    let misplaced (name : String) : Parameter := ⟨name, .unsupported "body", true, none, Schema.any⟩
    Table.ofList [("/beer", tagged "beer" []), ("/bar", tagged "bar" [misplaced "id"]),
      ("/keg", tagged "beer" [misplaced "size"])]
  schemas := none

-- The later operation is reported: its client comes first.
example : failure? (generate crossed) = some (.unsupportedLocation "/keg" .get "size" "body") := by
  decide +kernel

end Modules

end LoadClients

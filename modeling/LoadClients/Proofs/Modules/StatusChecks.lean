import LoadClients.Proofs.Client.Lockstep
import LoadClients.Proofs.Modules.Usable

/-!
The status that a method checks. It is that of one declared response, and a method goes without a
check only if its operation declares nothing but the default response, or nothing at all.
-/

namespace LoadClients

namespace Operation

/-- One declared response stands for all, and it is the default response only if that is all there
is. -/
structure Represented (o : Operation) : Prop where
  none_iff : o.representative = none ↔ o.responses.keys = []
  declared : ∀ r, o.representative = some r → r ∈ o.responses.entries
  default_iff : ∀ r, o.representative = some r →
    (r.1 = "default" ↔ o.responses.keys = ["default"])

variable {o : Operation}

theorem representative_of_nil (h : o.responses.entries = []) : o.representative = none := by
  rw [representative, h]

theorem representative_of_singleton {r : String × Response} (h : o.responses.entries = [r]) :
    o.representative = some r := by
  rw [representative, h]

theorem representative_of_cons_cons {r s : String × Response} {rest : List (String × Response)}
    (h : o.responses.entries = r :: s :: rest) :
    o.representative = some (if r.1 = "default" then s else r) := by
  rw [representative, h]
  exact (apply_ite some _ _ _).symm

theorem represented (o : Operation) : o.Represented := by
  have distinct := o.responses.nodup_keys
  cases entries : o.responses.entries with
  | nil =>
    have none := representative_of_nil entries
    exact ⟨by simp [none, Table.keys, entries], by simp [none], by simp [none]⟩
  | cons r rest =>
    cases rest with
    | nil =>
      have only := representative_of_singleton entries
      exact ⟨by simp [only, Table.keys, entries], by simp [only, entries],
        by simp [only, Table.keys, entries]⟩
    | cons s rest =>
      have first := representative_of_cons_cons entries
      -- the second response is not the default one when the first is
      have other : r.1 ≠ s.1 := by
        rw [entries] at distinct
        intro same
        simp [same] at distinct
      refine ⟨by simp [first, Table.keys, entries], ?_, ?_⟩
      · rw [first, entries]
        rintro _ ⟨⟩
        split <;> simp
      · rw [first, Table.keys, entries]
        rintro _ ⟨⟩
        split
        · next default => simp [← default, Ne.symm other]
        · next concrete => simp [concrete]

end Operation

theorem Request.checkedStatus_eq_none_iff {r : Request} : r.checkedStatus = none ↔
    r.endpoint.operation.responses.keys = [] ∨
      r.endpoint.operation.responses.keys = ["default"] := by
  obtain ⟨none_iff, _, default_iff⟩ := r.endpoint.operation.represented
  unfold checkedStatus response
  cases representative : r.endpoint.operation.representative with
  | none => simp [none_iff.mp representative]
  | some s =>
    have nonempty : r.endpoint.operation.responses.keys ≠ [] := by
      intro empty
      rw [none_iff.mpr empty] at representative
      cases representative
    rw [Option.map_some, ← default_iff s representative]
    by_cases default : s.1 = "default" <;> simp [default, nonempty]

/-- A status is checked exactly if one is declared that is not the default. -/
theorem Request.checkedStatus_isSome_iff {r : Request} : r.checkedStatus.isSome ↔
    ∃ key ∈ r.endpoint.operation.responses.keys, key ≠ "default" := by
  obtain ⟨none_iff, declared, default_iff⟩ := r.endpoint.operation.represented
  cases status : r.checkedStatus with
  | none =>
    refine iff_of_false (by simp) ?_
    rcases checkedStatus_eq_none_iff.mp status with keys | keys <;> simp [keys]
  | some status' =>
    obtain ⟨known, concrete⟩ := Option.filter_eq_some_iff.mp status
    obtain ⟨s, representative, rfl⟩ := Option.map_eq_some_iff.mp known
    refine iff_of_true rfl ⟨s.1, List.mem_map_of_mem (declared s representative), ?_⟩
    simpa using concrete

namespace ClientMethod

variable (m : ClientMethod)

/-- The statement that checks a status. -/
def check (status : String) : String :=
  "\n    check(res, \x7b\n      \"" ++ m.className ++ "." ++ label m.call ++ " " ++ status ++
    "\": r => r.status === " ++ status ++ "\n    \x7d);"

theorem checkStatement_of_status {status : String} (h : m.request.checkedStatus = some status) :
    m.checkStatement = m.check status := by
  unfold checkStatement check
  simp only [h]

theorem checkStatement_of_no_status (h : m.request.checkedStatus = none) :
    m.checkStatement = "" := by
  unfold checkStatement
  simp only [h]

/-- The definition of the method ends in the check of a status, or has one in front of the value that
it returns. -/
def Checks (status : String) : Prop :=
  EndsWith m.source (m.check status ++ m.returnStatement ++ "\n  \x7d")

theorem checks_of_status {status : String} (h : m.request.checkedStatus = some status) :
    m.Checks status := by
  unfold Checks source
  rw [m.checkStatement_of_status h]
  exact .append_right (.append_right (.append_left _ (.self _)) _) _

theorem not_checks_of_no_status (h : m.request.checkedStatus = none) (status : String) :
    ¬ m.Checks status := by
  have sends : EndsWith m.source ("params);" ++ m.returnStatement ++ "\n  \x7d") := by
    have call : EndsWith m.sendStatement "params);" := .append_left _ (.self _)
    unfold source
    rw [m.checkStatement_of_no_status h, String.append_empty]
    exact .append_right (.append_right (.append_left _ call) _) _
  intro checks
  -- the check would be closed where the request function is called
  have closes : EndsWith (m.check status) "\n    \x7d);" := .append_left _ (.self _)
  have closed := checks.trans (.append_right (.append_right closes _) _)
  have length : "params);".length = "\n    \x7d);".length := by decide
  have same := sends.unique closed (by simp only [String.length_append, length])
  simp only [String.append_left_inj] at same
  exact absurd same (by decide)

theorem exists_checks_iff : (∃ status, m.Checks status) ↔ m.request.checkedStatus.isSome := by
  cases status : m.request.checkedStatus with
  | none => simp [m.not_checks_of_no_status status]
  | some text => exact iff_of_true ⟨text, m.checks_of_status status⟩ rfl

end ClientMethod

namespace Modules

/-- In a valid document every operation declares a response: only the default one goes unchecked. -/
theorem unchecked_iff_of_valid {d : Document} {cs : List Client} (valid : d.validate = .ok ())
    (h : clientsOf d = .ok cs) {c : Client} (hc : c ∈ cs) {m : ClientMethod} (hm : m ∈ c.methods) :
    (¬ ∃ status, m.Checks status) ↔
      m.request.endpoint.operation.responses.keys = ["default"] := by
  have mem : m.request.endpoint ∈ d.endpoints :=
    (endpoints_perm_of_clientsOf h).mem_iff.mp
      (List.mem_flatMap.mpr ⟨c, hc, List.mem_map_of_mem hm⟩)
  have declared : m.request.endpoint.operation.responses.keys ≠ [] := by
    simpa [Table.keys] using (Document.validate_eq_ok_iff.mp valid).responses _ mem
  rw [m.exists_checks_iff, Option.not_isSome_iff_eq_none, Request.checkedStatus_eq_none_iff]
  simp only [declared, false_or]

/-- One of the declared responses stands for an operation, and it is the default one only if it is
alone. So a method checks a status exactly if one is declared besides the default, and in a valid
document only operations with nothing but a default response go unchecked. -/
theorem checks_declared_statuses :
    (∀ o : Operation, o.Represented) ∧
    (∀ (e : Endpoint) (m : ClientMethod), Request.ofEndpoint e = .ok m.request →
      (m.request.checkedStatus.isSome ↔ ∃ key ∈ e.operation.responses.keys, key ≠ "default") ∧
      ((∃ status, m.Checks status) ↔ ∃ key ∈ e.operation.responses.keys, key ≠ "default") ∧
      ∀ status, m.request.checkedStatus = some status → m.Checks status) ∧
    ∀ (d : Document) (cs : List Client), d.validate = .ok () → clientsOf d = .ok cs →
      ∀ c ∈ cs, ∀ m ∈ c.methods, (¬ ∃ status, m.Checks status) ↔
        m.request.endpoint.operation.responses.keys = ["default"] := by
  refine ⟨Operation.represented, ?_, ?_⟩
  · intro e m made
    have checked := Request.checkedStatus_isSome_iff (r := m.request)
    rw [Request.endpoint_of_ofEndpoint made] at checked
    exact ⟨checked, m.exists_checks_iff.trans checked, fun _ => m.checks_of_status⟩
  · intro d cs valid made c hc m hm
    exact unchecked_iff_of_valid valid made hc hm

/-- Two operations at one path, and the statuses that each declares. -/
def responding (first second : List String) : Document where
  openapi := "3.0.0"
  info := ⟨"Beer", none, "1"⟩
  paths :=
    let operation (statuses : List String) : Operation :=
      ⟨["beer"], none, none, none, [], none, Table.ofList (statuses.map fun s => (s, ⟨none, none⟩))⟩
    Table.ofList [("/beer", Table.ofList [(.get, operation first), (.put, operation second)])]
  schemas := none

theorem checks_declared_statuses_responding :
    ∃ cs, (responding ["default", "404"] ["default"]).validate = .ok () ∧
      clientsOf (responding ["default", "404"] ["default"]) = .ok cs ∧
      cs.map (fun c => c.methods.map (·.request.checkedStatus)) = [[some "404", none]] ∧
      ∀ c ∈ cs, ∀ m ∈ c.methods, (¬ ∃ status, m.Checks status) ↔
        m.request.endpoint.operation.responses.keys = ["default"] := by
  have valid : (responding ["default", "404"] ["default"]).validate = .ok () := by decide +kernel
  have statuses : (clientsOf (responding ["default", "404"] ["default"])).map
      (fun cs => cs.map fun c => c.methods.map (·.request.checkedStatus)) =
        .ok [[some "404", none]] := by
    decide +kernel
  obtain ⟨cs, made, checked⟩ := map_eq_ok_iff.mp statuses
  exact ⟨cs, valid, made, checked, checks_declared_statuses.2.2 _ cs valid made⟩

end Modules

end LoadClients

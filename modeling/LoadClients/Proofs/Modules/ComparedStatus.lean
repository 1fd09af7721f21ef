import LoadClients.Proofs.Modules.StatusChecks

/-!
The text that a method compares a status with. It is the first declared status that is not the
default one, as the document writes it. No check of the document looks at it, so that it is a number
only as far as the document has numbers there: a range of statuses, or any other text, is compared
with just the same.
-/

namespace LoadClients

/-- A literal of a whole number: digits, and at least one of them. -/
def Numeral (s : String) : Prop := s ≠ "" ∧ s.toList.all Char.isDigit

instance (s : String) : Decidable (Numeral s) :=
  inferInstanceAs (Decidable (s ≠ "" ∧ s.toList.all Char.isDigit))

/-- The first status that is declared besides the default one. -/
def Operation.firstStatus? (o : Operation) : Option String :=
  o.responses.keys.find? (· ≠ "default")

/-- If the default response comes first, the one behind it is another one. -/
theorem Request.checkedStatus_eq_firstStatus? (r : Request) :
    r.checkedStatus = r.endpoint.operation.firstStatus? := by
  have distinct := r.endpoint.operation.responses.nodup_keys
  unfold checkedStatus response Operation.firstStatus? Table.keys
  cases entries : r.endpoint.operation.responses.entries with
  | nil => rw [Operation.representative_of_nil entries]; rfl
  | cons first rest =>
    cases rest with
    | nil =>
      rw [Operation.representative_of_singleton entries]
      by_cases default : first.1 = "default" <;> simp [default]
    | cons second rest =>
      rw [Operation.representative_of_cons_cons entries]
      by_cases default : first.1 = "default"
      · have other : second.1 ≠ "default" := by
          intro same
          rw [entries] at distinct
          simp [default, same] at distinct
        simp [default, other]
      · simp [default]

namespace ClientMethod
variable (m : ClientMethod)

/-- The definition of the method up to where the response is there. -/
def sent : String :=
  "\n  " ++ m.call ++ " \x7b" ++ m.queryStatement ++ m.request.bodyStatement.getD "" ++
    "\n    params = Object.assign(\x7b\x7d, this.params, params);" ++ m.headerStatement ++
    m.sendStatement

/-- The first thing that the method does with the response is to compare its status with a text. -/
def Compares (status : String) : Prop :=
  m.source = m.sent ++ m.check status ++ m.returnStatement ++ "\n  \x7d"

theorem check_ne_empty (status : String) : m.check status ≠ "" := by
  have closes : EndsWith (m.check status) "\n    \x7d);" := .append_left _ (.self _)
  intro empty
  obtain ⟨front, text⟩ := closes
  rw [empty] at text
  exact absurd (String.append_eq_empty_iff.mp text.symm).2 (by decide)

/-- A status stands twice in its check, so that the length of the check tells its own. -/
theorem check_injective : Function.Injective m.check := by
  intro s t same
  unfold check at same
  have lengths := congrArg String.length same
  simp only [String.length_append] at lengths
  have length : s.length = t.length := by omega
  rw [String.append_left_inj] at same
  exact EndsWith.unique ⟨_, rfl⟩ ⟨_, same⟩ length

theorem compares_iff {status : String} :
    m.Compares status ↔ m.request.checkedStatus = some status := by
  have source : m.source = m.sent ++ m.checkStatement ++ m.returnStatement ++ "\n  \x7d" := rfl
  have same : m.Compares status ↔ m.checkStatement = m.check status := by
    unfold Compares
    rw [source]
    simp only [String.append_left_inj, String.append_right_inj]
  rw [same]
  cases checked : m.request.checkedStatus with
  | none =>
    rw [m.checkStatement_of_no_status checked]
    exact iff_of_false (m.check_ne_empty status).symm (by simp)
  | some text =>
    rw [m.checkStatement_of_status checked, m.check_injective.eq_iff, Option.some.injEq]

end ClientMethod

namespace Modules

/-- In a valid document a method compares the status with the first one that is declared besides the
default, and only an operation with nothing but a default response has nothing to compare with. So
what is compared is a number exactly if that status is one. -/
theorem compared_numeral_iff {d : Document} (valid : d.validate = .ok ()) {e : Endpoint}
    (he : e ∈ d.endpoints) {m : ClientMethod} (made : Request.ofEndpoint e = .ok m.request) :
    (∀ status, m.Compares status ↔ e.operation.firstStatus? = some status) ∧
    ((¬ ∃ status, m.Compares status) ↔ e.operation.responses.keys = ["default"]) ∧
    ((∀ status, m.Compares status → Numeral status) ↔
      ∀ status, e.operation.firstStatus? = some status → Numeral status) ∧
    ((∀ key ∈ e.operation.responses.keys, key ≠ "default" → Numeral key) →
      ∀ status, m.Compares status → Numeral status) := by
  have endpoint := Request.endpoint_of_ofEndpoint made
  have compares (status : String) :
      m.Compares status ↔ e.operation.firstStatus? = some status := by
    rw [m.compares_iff, m.request.checkedStatus_eq_firstStatus?, endpoint]
  refine ⟨compares, ?_, ?_, ?_⟩
  · have declared : e.operation.responses.keys ≠ [] := by
      simpa [Table.keys] using (Document.validate_eq_ok_iff.mp valid).responses e he
    have unchecked := Request.checkedStatus_eq_none_iff (r := m.request)
    rw [endpoint] at unchecked
    simp only [m.compares_iff]
    rw [← Option.isSome_iff_exists, Option.not_isSome_iff_eq_none, unchecked]
    simp only [declared, false_or]
  · simp only [compares]
  · intro numerals status compared
    have first := (compares status).mp compared
    exact numerals status (List.mem_of_find?_eq_some first) (by simpa using List.find?_some first)

/-- A valid document with a range of statuses, and with a note in front of which only the default
response stands. The method of each compares a status with a text that is no number. -/
theorem compared_without_numeral :
    (responding ["2XX", "404"] ["default", "x-note"]).validate = .ok () ∧
    ∃ cs, clientsOf (responding ["2XX", "404"] ["default", "x-note"]) = .ok cs ∧
      (∃ c ∈ cs, ∃ m ∈ c.methods, m.Compares "2XX") ∧
      (∃ c ∈ cs, ∃ m ∈ c.methods, m.Compares "x-note") ∧
      ¬ Numeral "2XX" ∧ ¬ Numeral "x-note" := by
  have valid : (responding ["2XX", "404"] ["default", "x-note"]).validate = .ok () := by
    decide +kernel
  have statuses : (clientsOf (responding ["2XX", "404"] ["default", "x-note"])).map
      (fun cs => cs.map fun c => c.methods.map (·.request.checkedStatus)) =
        .ok [[some "2XX", some "x-note"]] := by
    decide +kernel
  obtain ⟨cs, made, checked⟩ := map_eq_ok_iff.mp statuses
  have compared {status : String} (mem : some status ∈ [some "2XX", some "x-note"]) :
      ∃ c ∈ cs, ∃ m ∈ c.methods, m.Compares status := by
    have client : [some "2XX", some "x-note"] ∈
        cs.map fun c => c.methods.map (·.request.checkedStatus) := by simp [checked]
    obtain ⟨c, hc, methods⟩ := List.mem_map.mp client
    rw [← methods] at mem
    obtain ⟨m, hm, status⟩ := List.mem_map.mp mem
    exact ⟨c, hc, m, hm, m.compares_iff.mpr status⟩
  exact ⟨valid, cs, made, compared (by simp), compared (by simp), by decide, by decide⟩

/-- A number behind the default response is what the method compares with. -/
theorem compared_numeral_iff_responding :
    (responding ["default", "404"] ["default"]).validate = .ok () ∧
    ∃ e ∈ (responding ["default", "404"] ["default"]).endpoints, ∃ m : ClientMethod,
      Request.ofEndpoint e = .ok m.request ∧ e.operation.responses.keys = ["default", "404"] ∧
      m.Compares "404" ∧ ∀ status, m.Compares status → Numeral status := by
  have valid : (responding ["default", "404"] ["default"]).validate = .ok () := by decide +kernel
  have runs : (responding ["default", "404"] ["default"]).endpoints.map
      (fun e => (Request.ofEndpoint e).map (·.endpoint.operation.responses.keys)) =
        [.ok ["default", "404"], .ok ["default"]] := by
    decide +kernel
  obtain ⟨e, he, run⟩ := List.mem_map.mp (runs ▸ List.mem_cons_self)
  obtain ⟨r, made, keys⟩ := map_eq_ok_iff.mp run
  rw [Request.endpoint_of_ofEndpoint made] at keys
  let m : ClientMethod := ⟨"BeerClient", "get", r⟩
  obtain ⟨compares, _, _, numerals⟩ := compared_numeral_iff (m := m) valid he made
  refine ⟨valid, e, he, m, made, keys, (compares "404").mpr ?_, numerals ?_⟩
  · rw [Operation.firstStatus?, keys]
    decide
  · rw [keys]
    decide

end Modules

end LoadClients

import LoadClients.Document.Validity
import LoadClients.Proofs.Modules.FirstFault

/-!
The documents that are valid and the documents that clients can be made of. Validity is about the
version and the responses, while clients need tags, templates and places for the parameters, which
no check of the document looks at.
-/

namespace LoadClients

/-- A document of version 3 whose operations all declare a response. -/
structure Document.Valid (d : Document) : Prop where
  version : ∃ v, Version.parse d.openapi = some v ∧ v.major = 3
  responses : ∀ e ∈ d.endpoints, e.operation.responses.entries ≠ []

theorem Document.validate_eq_ok_iff {d : Document} : d.validate = .ok () ↔ d.Valid := by
  have answered : (d.endpoints.find? fun e => e.operation.responses.entries.isEmpty) = none ↔
      ∀ e ∈ d.endpoints, e.operation.responses.entries ≠ [] := by
    simp [List.find?_eq_none]
  unfold validate
  constructor
  · intro h
    split at h
    · cases h
    · next v parsed =>
      split at h
      · cases h
      · next major =>
        split at h
        · cases h
        · next none => exact ⟨⟨v, parsed, not_not.mp major⟩, answered.mp none⟩
  · rintro ⟨⟨v, parsed, major⟩, responses⟩
    simp only [parsed, major, answered.mpr responses, ne_eq, not_true_eq_false, if_false]

/-- An operation that a method can be made of: it has a tag, its path is a template, and none of its
parameters is misplaced. -/
structure Endpoint.Usable (e : Endpoint) : Prop where
  tagged : e.operation.tags ≠ []
  template : ∃ t, Template.parse e.resource = .ok t
  placed : ∀ p ∈ e.operation.parameters, ∀ location, p.location ≠ .unsupported location

theorem Parameter.misplaced?_eq_none_iff {p : Parameter} :
    p.misplaced? = none ↔ ∀ location, p.location ≠ .unsupported location := by
  unfold misplaced?
  cases p.location <;> simp

namespace Endpoint

theorem fault?_eq_none_iff {e : Endpoint} :
    e.fault? = none ↔ (∃ t, Template.parse e.resource = .ok t) ∧
      ∀ p ∈ e.operation.parameters, ∀ location, p.location ≠ .unsupported location := by
  unfold fault?
  cases Template.parse e.resource with
  | error cause => simp
  | ok t => simp [List.findSome?_eq_none_iff, Parameter.misplaced?_eq_none_iff]

theorem usable_iff {e : Endpoint} : e.Usable ↔ ¬ e.untagged ∧ e.fault? = none := by
  have tagged : ¬ e.untagged ↔ e.operation.tags ≠ [] := by simp [untagged]
  rw [tagged, fault?_eq_none_iff]
  constructor
  · rintro ⟨tags, template, placed⟩
    exact ⟨tags, template, placed⟩
  · rintro ⟨tags, template, placed⟩
    exact ⟨tags, template, placed⟩

end Endpoint

namespace Modules

theorem exists_generate_iff {d : Document} :
    (∃ m, generate d = .ok m) ↔ ∀ e ∈ d.endpoints, e.Usable := by
  rw [← failure?_eq_none_iff, failure?_generate]
  cases first : d.endpoints.find? Endpoint.untagged with
  | some e =>
    have untagged : ¬ e.Usable := fun usable =>
      (Endpoint.usable_iff.mp usable).1 (List.find?_some first)
    have fails : failure? (clientsOf d) ≠ none := by
      rw [clientsOf_eq, first]
      exact Option.some_ne_none _
    exact iff_of_false fails fun usable => untagged (usable e (List.mem_of_find?_eq_some first))
  | none =>
    have tagged := List.find?_eq_none.mp first
    rw [failure?_clientsOf d first, List.findSome?_eq_none_iff]
    constructor
    · intro faultless e he
      have later := (inClientOrder_perm tagged).mem_iff.mpr he
      exact Endpoint.usable_iff.mpr ⟨tagged e he, faultless e later⟩
    · intro usable e he
      have earlier := (inClientOrder_perm tagged).mem_iff.mp he
      exact (Endpoint.usable_iff.mp (usable e earlier)).2

/-- The check of a document vouches for its clients exactly when the document is not valid, or each
of its operations is usable. -/
theorem validate_vouches_iff (d : Document) :
    (d.validate = .ok () → ∃ m, generate d = .ok m) ↔
      (d.Valid → ∀ e ∈ d.endpoints, e.Usable) := by
  rw [Document.validate_eq_ok_iff, exists_generate_iff]

/-- One operation that answers, at a path, with tags and parameters. -/
def answering (resource : String) (tags : List String) (parameters : List Parameter) :
    Document where
  openapi := "3.0.0"
  info := ⟨"Beer", none, "1"⟩
  paths :=
    let responses : Table String Response := Table.ofList [("200", ⟨none, none⟩)]
    Table.ofList [(resource, Table.ofList [(.get,
      ⟨tags, none, none, none, parameters, none, responses⟩)])]
  schemas := none

/-- A parameter of a form, which has no place in a path or a query. -/
def formField : Parameter := ⟨"size", .unsupported "formData", true, none, Schema.any⟩

/-- Three valid documents without clients: a path that does not begin with a slash, a misplaced
parameter, and no tags. -/
theorem valid_without_clients :
    (answering "beer" ["beer"] []).validate = .ok () ∧
      generate (answering "beer" ["beer"] []) = .error (.badPath "beer" ⟨0, 1⟩) ∧
    (answering "/beer" ["beer"] [formField]).validate = .ok () ∧
      generate (answering "/beer" ["beer"] [formField]) =
        .error (.unsupportedLocation "/beer" .get "size" "formData") ∧
    (answering "/beer" [] []).validate = .ok () ∧
      generate (answering "/beer" [] []) = .error (.untagged "/beer" .get) := by
  simp only [← failure?_eq_some_iff]
  decide +kernel

end Modules

end LoadClients

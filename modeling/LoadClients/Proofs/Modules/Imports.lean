import LoadClients.Proofs.Client.Lockstep
import LoadClients.Proofs.Modules.Exports

/-!
What the types module imports. It begins with one import exactly if there is an operation, and the
names in it are the same for all clients but for the one that wraps a response, which is there
exactly if some method returns a value.
-/

namespace LoadClients

/-- The response that stands for the operation has a content of some type. -/
def Operation.HasContent (o : Operation) : Prop :=
  ∃ r, o.representative = some r ∧ ∃ content, r.2.content = some content ∧ content.entries ≠ []

theorem Request.responseType_isSome_iff {r : Request} :
    r.responseType.isSome ↔ r.endpoint.operation.HasContent := by
  unfold responseType response Operation.HasContent
  cases r.endpoint.operation.representative with
  | none => simp
  | some s =>
    cases content : s.2.content with
    | none => simp [content]
    | some c => cases entries : c.entries <;> simp [content, entries]

/-- The method is declared to return a wrapped response, with a decoder for some type. -/
def ClientMethod.ReturnsWrapped (m : ClientMethod) : Prop :=
  ∃ type, EndsWith m.typeSource (declaredValue type)

/-- What is imported with and without a wrapped response. -/
def importedNames (wrapped : Bool) : List String :=
  ["RefinedParams", "ResponseType"] ++ if wrapped then ["RefinedResponse"] else []

theorem nodup_importedNames (wrapped : Bool) : (importedNames wrapped).Nodup := by
  cases wrapped <;> decide

def Client.returnsBody (c : Client) : Bool := c.methods.any (·.returnsBody)

namespace TypeNames
variable {names : TypeNames} {known : Bool}

/-- A method adds the name of a wrapped response if it returns one, and no other name. -/
theorem keys_register (h : names.keys = importedNames known) (m : ClientMethod) :
    (names.register m).keys = importedNames (known || m.returnsBody) := by
  unfold register
  cases m.returnsBody with
  | false => simpa using h
  | true =>
    simp only [if_true, add, Table.keys_put, h]
    cases known <;> decide

theorem keys_foldl_register (h : names.keys = importedNames known) (ms : List ClientMethod) :
    (ms.foldl register names).keys = importedNames (known || ms.any (·.returnsBody)) := by
  induction ms generalizing names known with
  | nil => simpa using h
  | cons m ms ih => rw [List.foldl_cons, ih (keys_register h m), List.any_cons, Bool.or_assoc]

/-- The names of a client add no other one either. -/
theorem keys_foldl_add (h : names.keys = importedNames known) (wrapped : Bool) :
    ((importedNames wrapped).foldl add names).keys = importedNames (known || wrapped) := by
  cases wrapped with
  | false =>
    change ((names.add "RefinedParams").add "ResponseType").keys = _
    simp only [add, Table.keys_put, h]
    cases known <;> decide
  | true =>
    change (((names.add "RefinedParams").add "ResponseType").add "RefinedResponse").keys = _
    simp only [add, Table.keys_put, h]
    cases known <;> decide

end TypeNames

theorem Client.typeNames_eq (c : Client) : c.typeNames = importedNames c.returnsBody := by
  have initial : TypeNames.initial.keys = importedNames false := by decide
  exact TypeNames.keys_foldl_register initial c.methods

namespace Modules

theorem keys_foldl_clients {names : TypeNames} {known : Bool} (h : names.keys = importedNames known)
    (cs : List Client) :
    (cs.foldl (fun names c => c.typeNames.foldl TypeNames.add names) names).keys =
      importedNames (known || cs.any (·.returnsBody)) := by
  induction cs generalizing names known with
  | nil => simpa using h
  | cons c cs ih =>
    have first := TypeNames.keys_foldl_add h c.returnsBody
    rw [← c.typeNames_eq] at first
    rw [List.foldl_cons, ih first, List.any_cons, Bool.or_assoc]

/-- The names of several clients are those of one, which returns a value if any of them does. -/
theorem typeNames_eq (cs : List Client) :
    typeNames cs = if cs.isEmpty then [] else importedNames (cs.any (·.returnsBody)) := by
  cases cs with
  | nil => rfl
  | cons c cs =>
    have first : (c.typeNames.foldl TypeNames.add Table.empty).keys =
        importedNames c.returnsBody := by
      rw [c.typeNames_eq]
      cases c.returnsBody <;> decide
    exact keys_foldl_clients first cs

theorem typeNames_perm {cs cs' : List Client} (h : cs'.Perm cs) : typeNames cs' = typeNames cs := by
  have empty : cs'.isEmpty = cs.isEmpty := by
    rw [Bool.eq_iff_iff, List.isEmpty_iff, List.isEmpty_iff]
    exact ⟨fun nil => (nil ▸ h).nil_eq.symm, fun nil => (nil ▸ h).eq_nil⟩
  rw [typeNames_eq, typeNames_eq, empty, h.any_eq]

def importStatement (names : List String) : String :=
  "import \x7b " ++ ", ".intercalate names ++ " \x7d from \"k6/http\";"

/-- The texts that a types module holds after its imports: all of them export something. -/
def exports (cs : List Client) (schemas : Option (Table String Schema)) : String :=
  "\n\n".intercalate (cs.map Client.typeSource ++ (schemas.map declarationsSource).toList)

theorem types_of_no_clients (schemas : Option (Table String Schema)) :
    (ofClients [] schemas).types = header ++ "\n\n" ++ exports [] schemas := rfl

theorem types_of_clients {cs : List Client} (h : cs ≠ []) (schemas : Option (Table String Schema)) :
    (ofClients cs schemas).types = header ++ "\n\n" ++
      (importStatement (importedNames (cs.any (·.returnsBody))) ++ "\n\n" ++
        exports cs schemas) := by
  obtain ⟨c, cs, rfl⟩ := List.exists_cons_of_ne_nil h
  have names : typeNames (c :: cs) = importedNames ((c :: cs).any (·.returnsBody)) := typeNames_eq _
  unfold ofClients exports
  rw [names]
  -- there are names, and texts after the import
  change header ++ "\n\n" ++ "\n\n".intercalate (importStatement _ :: c.typeSource :: _) = _
  rw [String.intercalate_cons_cons]
  rfl

theorem not_import_of_export {text : String} (h : BeginsWith text "export ") :
    ¬ BeginsWith text "import " := by
  intro bad
  exact absurd (h.unique bad (by decide)) (by decide)

theorem not_import_empty : ¬ BeginsWith "" "import " := by
  rintro ⟨rest, eq⟩
  exact absurd (String.append_eq_empty_iff.mp eq.symm).1 (by decide)

theorem not_import_exports (cs : List Client) (schemas : Option (Table String Schema)) :
    ¬ BeginsWith (exports cs schemas) "import " := by
  cases cs with
  | cons c cs => exact not_import_of_export (c.exports_typeSource.beginsWith.intercalate _ _)
  | nil =>
    cases schemas with
    | none => exact not_import_empty
    | some schemas =>
      change ¬ BeginsWith ("\n\n".intercalate [declarationsSource schemas]) "import "
      rw [String.intercalate_singleton, declarationsSource]
      cases declarations schemas with
      | nil => exact not_import_empty
      | cons declaration rest =>
        exact not_import_of_export (declaration.exports_source.beginsWith.intercalate _ _)

theorem clients_eq_nil_iff {d : Document} {cs : List Client} (h : clientsOf d = .ok cs) :
    cs = [] ↔ d.endpoints = [] := by
  obtain ⟨results, tagged⟩ := clientsOf_eq_ok h
  constructor
  · rintro rfl
    have operations := endpoints_perm_of_clientsOf h
    exact operations.nil_eq.symm
  · intro none
    rw [Document.firstTags, none] at results
    exact List.map_eq_nil_iff.mp results.symm

/-- A types module with its imports, for the clients of a document: whether some method wraps a
response decides on the names, and no order of the clients does. -/
structure Importing (d : Document) (cs : List Client) (wrapped : Bool) (m : Modules) : Prop where
  clients : clientsOf d = .ok cs
  modules : m = ofClients cs d.schemas
  signatures : wrapped ↔ ∃ c ∈ cs, ∃ f ∈ c.methods, f.ReturnsWrapped
  contents : wrapped ↔ ∃ e ∈ d.endpoints, e.operation.HasContent
  begins : BeginsWith m.types (header ++ "\n\n" ++ "import ") ↔ d.endpoints ≠ []
  line : d.endpoints ≠ [] → ∃ rest, m.types = header ++ "\n\n" ++
    (importStatement (importedNames wrapped) ++ "\n\n" ++ rest) ∧ ¬ BeginsWith rest "import "
  distinct : (importedNames wrapped).Nodup
  order : ∀ cs' : List Client, cs'.Perm cs → typeNames cs' = typeNames cs

theorem wrapped_iff_signatures (cs : List Client) :
    cs.any (·.returnsBody) ↔ ∃ c ∈ cs, ∃ f ∈ c.methods, f.ReturnsWrapped := by
  simp only [List.any_eq_true, Client.returnsBody, ClientMethod.ReturnsWrapped,
    ← ClientMethod.returnsBody_iff_declaredValue]

theorem wrapped_iff_contents {d : Document} {cs : List Client} (h : clientsOf d = .ok cs) :
    cs.any (·.returnsBody) ↔ ∃ e ∈ d.endpoints, e.operation.HasContent := by
  have operations := endpoints_perm_of_clientsOf h
  simp only [← operations.mem_iff, List.mem_flatMap, List.mem_map, List.any_eq_true,
    Client.returnsBody, ClientMethod.returnsBody, Request.responseType_isSome_iff]
  constructor
  · rintro ⟨c, hc, f, hf, content⟩
    exact ⟨_, ⟨c, hc, f, hf, rfl⟩, content⟩
  · rintro ⟨_, ⟨c, hc, f, hf, rfl⟩, content⟩
    exact ⟨c, hc, f, hf, content⟩

/-- There is one import for a document with operations, and none for another. It names what all
methods need, and the wrapped response exactly if a method returns one, as methods do whose
operations answer with a content. -/
theorem generate_imports {d : Document} {m : Modules} (h : generate d = .ok m) :
    ∃ cs wrapped, Importing d cs wrapped m := by
  obtain ⟨cs, made, same⟩ := bind_eq_ok_iff.mp h
  cases same
  refine ⟨cs, cs.any (·.returnsBody), made, rfl, wrapped_iff_signatures cs,
    wrapped_iff_contents made, ?_, ?_, nodup_importedNames _, fun _ => typeNames_perm⟩
  · by_cases empty : cs = []
    · have none := (clients_eq_nil_iff made).mp empty
      rw [empty, types_of_no_clients, BeginsWith.append_left_iff]
      exact iff_of_false (not_import_exports _ _) (not_not.mpr none)
    · have operations := (clients_eq_nil_iff made).not.mp empty
      rw [types_of_clients empty, BeginsWith.append_left_iff]
      refine iff_of_true ?_ operations
      have brace : BeginsWith "import \x7b " "import " := ⟨"\x7b ", rfl⟩
      unfold importStatement
      simp only [String.append_assoc]
      exact brace.append_right _
  · intro operations
    have clients : cs ≠ [] := (clients_eq_nil_iff made).not.mpr operations
    exact ⟨exports cs d.schemas, types_of_clients clients d.schemas,
      not_import_exports cs d.schemas⟩

/-- Operations under a tag each, of which some answer with a content. -/
def taproom (contents : List (String × Bool)) : Document where
  openapi := "3.0.0"
  info := ⟨"Taproom", none, "1"⟩
  paths :=
    let beer : Content := Table.ofList [("application/json", .reference "#/schemas/Beer")]
    Table.ofList (contents.map fun c => ("/" ++ c.1, Table.ofList [(.get,
      ⟨[c.1], none, none, none, [], none,
        Table.ofList [("200", ⟨none, if c.2 then some beer else none⟩)]⟩)]))
  schemas := none

theorem generate_imports_taproom :
    ∃ m cs, generate (taproom [("keg", false), ("tap", true), ("jug", false)]) = .ok m ∧
      cs.map Client.typeNames = [["RefinedParams", "ResponseType"],
        ["RefinedParams", "ResponseType", "RefinedResponse"], ["RefinedParams", "ResponseType"]] ∧
      Importing (taproom [("keg", false), ("tap", true), ("jug", false)]) cs true m := by
  have names : (clientsOf (taproom [("keg", false), ("tap", true), ("jug", false)])).map
      (fun cs => (cs.map Client.typeNames, cs.any (·.returnsBody))) =
        .ok ([["RefinedParams", "ResponseType"],
          ["RefinedParams", "ResponseType", "RefinedResponse"],
          ["RefinedParams", "ResponseType"]], true) := by
    decide +kernel
  obtain ⟨cs, made, eq⟩ := map_eq_ok_iff.mp names
  obtain ⟨typeNames, returns⟩ := Prod.mk.inj eq
  have h : generate (taproom [("keg", false), ("tap", true), ("jug", false)]) =
      .ok (ofClients cs none) := bind_eq_ok_iff.mpr ⟨cs, made, rfl⟩
  obtain ⟨cs', wrapped, importing⟩ := generate_imports h
  obtain rfl : cs = cs' := Except.ok.inj (made.symm.trans importing.clients)
  obtain rfl : wrapped = true :=
    importing.signatures.mpr ((wrapped_iff_signatures cs).mp returns)
  exact ⟨_, cs, h, typeNames, importing⟩

end Modules

end LoadClients

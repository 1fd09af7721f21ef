import LoadClients.Document.Validity
import LoadClients.Proofs.Modules.ClientsByTag
import LoadClients.Proofs.Naming.Identifiers
import LoadClients.Proofs.Request.Identifiers

/-!
Which names of a client are identifiers. No name is checked: one that a document gives is an
identifier as far as its text is, and one that the document does not give always is.
-/

namespace LoadClients

/-- The text that a method is named after: the identifier of the operation, or a segment of its
path. Without one the HTTP method gives the name. -/
def Request.nameText? (r : Request) (tag : String) : Option String :=
  r.endpoint.operation.operationId.or
    (((r.template.segments.reverse.find? (!·.isTemplated)).map Segment.text).filter fun text =>
      ¬ (text = "" ∨ text = tag))

theorem Request.baseName_eq (r : Request) (tag : String) :
    r.baseName tag = ((r.nameText? tag).map Naming.camelCase).getD r.endpoint.method.name := by
  unfold baseName nameText?
  cases r.endpoint.operation.operationId with
  | some id => rfl
  | none =>
    cases r.template.segments.reverse.find? (!·.isTemplated) with
    | none => rfl
    | some segment =>
      rw [Option.map_some, Option.filter_some]
      by_cases silent : segment.text = "" ∨ segment.text = tag
      · simp [silent]
      · simp [silent]

/-- The text that a body is named after, when its content is a reference. -/
def Payload.nameText? : Payload → Option String
  | json (.reference path) => some (Naming.referenceName path)
  | _ => none

/-- The texts that the identifiers of an operation are made of, in their order. -/
def Operation.identifierTexts (o : Operation) : List (Option String) :=
  (o.argumentParameters.filter (·.required)).map (fun p => some p.name) ++
    (o.requestBody.map fun b => (Payload.ofContent b.content).nameText?).toList ++
    (o.argumentParameters.filter (!·.required)).map (fun p => some p.name) ++ [none]

namespace Alphabet

variable {A : Alphabet}

/-- The name is an identifier exactly when the text that it is made of, if any, is spelled like
one. -/
def NamedAfter (A : Alphabet) (text : Option String) (name : String) : Prop :=
  A.Identifier name ↔ ∀ s ∈ text, A.Spells (Naming.spelling s)

theorem namedAfter_camelCase (s : String) : A.NamedAfter (some s) (Naming.camelCase s) := by
  simpa [NamedAfter] using identifier_camelCase

theorem namedAfter_fixed {name : String} (nonempty : name ≠ "")
    (h : name.toList.all Char.isAlpha) : A.NamedAfter none name :=
  iff_of_true (identifier_of_alphabetic nonempty h) (by simp)

theorem namedAfter_baseName (r : Request) (tag : String) :
    A.NamedAfter (r.nameText? tag) (r.baseName tag) := by
  rw [r.baseName_eq]
  cases r.nameText? tag with
  | none =>
    apply namedAfter_fixed
    · cases r.endpoint.method <;> decide
    · cases r.endpoint.method <;> decide
  | some text => exact namedAfter_camelCase text

theorem namedAfter_argumentName (p : Payload) : A.NamedAfter p.nameText? p.argumentName := by
  have payload : A.NamedAfter none "payload" := namedAfter_fixed (by decide) (by decide)
  have binFile : A.NamedAfter none "binFile" := namedAfter_fixed (by decide) (by decide)
  cases p with
  | json schema =>
    cases schema with
    | reference path => exact namedAfter_camelCase _
    | _ => exact payload
  | form => exact payload
  | octets => exact binFile
  | other => exact payload

theorem forall₂_identifiers (o : Operation) :
    List.Forall₂ A.NamedAfter o.identifierTexts o.identifiers := by
  have parameters (ps : List Parameter) : List.Forall₂ A.NamedAfter
      (ps.map fun p => some p.name) (ps.map Parameter.identifier) := by
    rw [List.forall₂_map_left_iff, List.forall₂_map_right_iff, List.forall₂_same]
    exact fun p _ => namedAfter_camelCase p.name
  have body : List.Forall₂ A.NamedAfter
      (o.requestBody.map fun b => (Payload.ofContent b.content).nameText?).toList
      (o.requestBody.map RequestBody.identifier).toList := by
    cases o.requestBody with
    | none => exact .nil
    | some b => exact .cons (namedAfter_argumentName _) .nil
  have options : List.Forall₂ A.NamedAfter [none] ["params"] :=
    .cons (namedAfter_fixed (by decide) (by decide)) .nil
  exact List.rel_append (List.rel_append (List.rel_append (parameters _) body) (parameters _))
    options

/-- Which names of the client of a tag are identifiers. -/
structure Names (A : Alphabet) (tag : String) (c : Client) : Prop where
  className : A.Identifier c.className ↔
    (∀ ch, tag.toList.head? = some ch → ¬ ch.isDigit) ∧ ∀ ch ∈ tag.toList, A.Admits ch
  methods : ∀ m ∈ c.methods, A.NamedAfter (m.request.nameText? tag) m.name
  arguments : ∀ m ∈ c.methods, List.Forall₂ A.NamedAfter
    m.request.endpoint.operation.identifierTexts (m.request.arguments.map Argument.name)

theorem names_of_generate {tag : String} {es : List Endpoint} {c : Client}
    (h : Client.generate tag es = .ok c) : A.Names tag c := by
  have requests := Client.requests_of_generate h
  obtain ⟨rs, _, rfl⟩ := Client.generate_eq_ok_iff.mp h
  refine ⟨identifier_classNameOf, ?_, ?_⟩
  · intro m hm
    have base := namedAfter_baseName (A := A) m.request tag
    rcases name_of_mem_nameMethods tag CallSpace.counted_empty hm with same | ⟨k, _, number⟩
    · rwa [same]
    · rw [number]
      exact identifier_numbered.trans base
  · intro m hm
    have made : Except.ok m.request ∈ es.map Request.ofEndpoint := by
      rw [requests]
      exact List.mem_map_of_mem (List.mem_map_of_mem hm)
    obtain ⟨e, _, he⟩ := List.mem_map.mp made
    rw [Request.endpoint_of_ofEndpoint he, Request.arguments_names he]
    exact forall₂_identifiers e.operation

end Alphabet

namespace Modules

/-- A class name is an identifier exactly when its tag consists of characters of identifiers and
does not begin with a digit. A method or an argument that is named after a text is one exactly when
the text, without its separators, is. All other names are identifiers. -/
theorem generate_identifiers_iff (A : Alphabet) {d : Document} {m : Modules}
    (h : generate d = .ok m) :
    ∃ client, ByTag d client m ∧ ∀ tag ∈ d.firstTags, A.Names tag (client tag) := by
  obtain ⟨client, byTag⟩ := exists_byTag h
  exact ⟨client, byTag, fun tag ht => Alphabet.names_of_generate (byTag.made tag ht)⟩

/-- Operations of one tag, each with its identifier and one parameter. -/
def cellar (tag : String) (ids : List String) (parameter : String) : Document where
  openapi := "3.0.0"
  info := ⟨"Cellar", none, "1"⟩
  paths :=
    let inputs : List Parameter := [⟨parameter, .query, true, none, Schema.any⟩]
    let responses : Table String Response := Table.ofList [("200", ⟨none, none⟩)]
    Table.ofList (ids.map fun id => ("/" ++ id, Table.ofList [(.get,
      ⟨[tag], none, none, some id, inputs, none, responses⟩)]))
  schemas := none

/-- A valid document with a blank in its tag, an operation that begins with a digit, one that
consists of separators, and brackets in a parameter. -/
theorem cellar_without_identifiers :
    (cellar "craft beer" ["1st-pour", "--"] "filter[style]").validate = .ok () ∧
      (∃ m, generate (cellar "craft beer" ["1st-pour", "--"] "filter[style]") = .ok m) ∧
      (∃ c, clientsOf (cellar "craft beer" ["1st-pour", "--"] "filter[style]") = .ok [c] ∧
        c.className = "Craft beerClient" ∧ c.methods.map (·.name) = ["1stPour", ""] ∧
        ∀ m ∈ c.methods, m.request.arguments.map Argument.name = ["filter[style]", "params"]) ∧
      ∀ A : Alphabet, ∀ name ∈ ["Craft beerClient", "1stPour", "", "filter[style]"],
        ¬ A.Identifier name := by
  have clients : (clientsOf (cellar "craft beer" ["1st-pour", "--"] "filter[style]")).map
      (fun cs => cs.map fun c => (c.className, c.methods.map (·.name),
        c.methods.map fun m => m.request.arguments.map Argument.name)) =
      .ok [("Craft beerClient", ["1stPour", ""],
        [["filter[style]", "params"], ["filter[style]", "params"]])] := by
    decide +kernel
  have unspelled : ∀ name ∈ ["Craft beerClient", "1stPour", "", "filter[style]"],
      ¬ Alphabet.wide.Identifier name := by
    decide
  obtain ⟨cs, made, names⟩ := map_eq_ok_iff.mp clients
  obtain ⟨c, rfl, parts⟩ := List.map_eq_singleton_iff.mp names
  obtain ⟨className, rest⟩ := Prod.mk.inj parts
  obtain ⟨methods, arguments⟩ := Prod.mk.inj rest
  refine ⟨by decide +kernel, ⟨_, bind_eq_ok_iff.mpr ⟨[c], made, rfl⟩⟩,
    ⟨c, made, className, methods, ?_⟩, ?_⟩
  · intro m hm
    have listed := List.mem_map_of_mem (f := fun m => m.request.arguments.map Argument.name) hm
    rw [arguments] at listed
    simpa using listed
  · intro A name hn identifier
    exact unspelled name hn (Alphabet.wide_of_identifier identifier)

theorem generate_identifiers_cellar :
    ∃ m, generate (cellar "beer" ["pour-beer"] "glass_size") = .ok m ∧
      ∃ client, ByTag (cellar "beer" ["pour-beer"] "glass_size") client m ∧
        ∀ tag ∈ (cellar "beer" ["pour-beer"] "glass_size").firstTags,
          Alphabet.wide.Names tag (client tag) := by
  obtain ⟨m, h⟩ : ∃ m, generate (cellar "beer" ["pour-beer"] "glass_size") = .ok m := by
    decide +kernel
  exact ⟨m, h, generate_identifiers_iff Alphabet.wide h⟩

end Modules

end LoadClients

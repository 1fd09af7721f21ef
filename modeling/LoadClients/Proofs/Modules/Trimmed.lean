import LoadClients.Proofs.Modules.FirstFault
import LoadClients.Proofs.Request.Trimmed

/-!
What the modules take from a document. Nothing that is left out of a trimmed operation is seen in
any text, name or fault of the whole document, and nor are its version and its description.
-/

namespace LoadClients

namespace ClientMethod

def trimmed (m : ClientMethod) : ClientMethod := { m with request := m.request.trimmed }

variable (m : ClientMethod)

@[simp] theorem returnsBody_trimmed : m.trimmed.returnsBody = m.returnsBody := by
  simp only [returnsBody, trimmed, Request.responseType_trimmed]

theorem typeSource_trimmed : m.trimmed.typeSource = m.typeSource := by
  have type : m.trimmed.returnType = m.returnType := by
    simp only [returnType, trimmed, Request.responseType_trimmed]
  have comment : m.trimmed.request.comment = m.request.comment := m.request.comment_trimmed
  unfold typeSource
  rw [type, comment]
  rfl

theorem source_trimmed : m.trimmed.source = m.source := by
  have check : m.trimmed.checkStatement = m.checkStatement := by
    simp only [checkStatement, trimmed, Request.checkedStatus_trimmed]
    rfl
  have value : m.trimmed.returnStatement = m.returnStatement := by
    simp only [returnStatement, returnsBody_trimmed]
  unfold source
  rw [check, value]
  rfl

end ClientMethod

theorem nameMethods_trimmed (tag : String) (s : CallSpace) (rs : List Request) :
    nameMethods tag s (rs.map Request.trimmed) =
      (nameMethods tag s rs).map ClientMethod.trimmed := by
  induction rs generalizing s with
  | nil => rfl
  | cons r rs ih =>
    have name : r.trimmed.baseName tag = r.baseName tag := rfl
    have arguments : ClientMethod.argumentText r.trimmed = ClientMethod.argumentText r := rfl
    simp only [List.map_cons, nameMethods, name, arguments, ih]
    rfl

namespace Client

def trimmed (c : Client) : Client := { c with methods := c.methods.map ClientMethod.trimmed }

variable (c : Client)

theorem typeNames_trimmed : c.trimmed.typeNames = c.typeNames := by
  have register (names : TypeNames) (m : ClientMethod) :
      names.register m.trimmed = names.register m := by
    simp only [TypeNames.register, ClientMethod.returnsBody_trimmed]
  simp only [typeNames, trimmed, List.foldl_map, register]

theorem className_trimmed : c.trimmed.className = c.className := rfl

theorem typeSource_trimmed : c.trimmed.typeSource = c.typeSource := by
  have methods : c.trimmed.methods.map ClientMethod.typeSource =
      c.methods.map ClientMethod.typeSource := by
    simp only [trimmed, List.map_map, Function.comp_def, ClientMethod.typeSource_trimmed]
  unfold typeSource
  rw [className_trimmed, methods]

theorem source_trimmed : c.trimmed.source = c.source := by
  have methods : c.trimmed.methods.map ClientMethod.source =
      c.methods.map ClientMethod.source := by
    simp only [trimmed, List.map_map, Function.comp_def, ClientMethod.source_trimmed]
  unfold source
  rw [className_trimmed, methods]

theorem generate_trimmed (tag : String) (es : List Endpoint) :
    generate tag (es.map Endpoint.trimmed) = (generate tag es).map trimmed := by
  unfold generate
  rw [List.mapM_map]
  simp only [Function.comp_def, Request.ofEndpoint_trimmed, mapM_map_results]
  cases es.mapM Request.ofEndpoint with
  | error e => rfl
  | ok rs =>
    change Except.ok _ = Except.ok _
    rw [nameMethods_trimmed]
    rfl

end Client

theorem Endpoint.firstTag_trimmed (e : Endpoint) : e.trimmed.firstTag = e.firstTag := by
  cases tags : e.operation.tags <;>
    simp [firstTag, trimmed, Operation.trimmed, tags]

theorem Endpoint.untagged_trimmed (e : Endpoint) : e.trimmed.untagged = e.untagged := by
  cases tags : e.operation.tags <;>
    simp [untagged, trimmed, Operation.trimmed, tags]

theorem tagsOf_trimmed (es : List Endpoint) : tagsOf (es.map Endpoint.trimmed) = tagsOf es := by
  simp only [tagsOf, List.filterMap_map, Function.comp_def, Endpoint.firstTag_trimmed]

theorem withTag_trimmed (tag : String) (es : List Endpoint) :
    withTag tag (es.map Endpoint.trimmed) = (withTag tag es).map Endpoint.trimmed := by
  simp only [withTag, List.filter_map, Function.comp_def, Endpoint.firstTag_trimmed]

/-- The document with each operation trimmed, under another version and description. -/
def Document.trimmed (d : Document) (openapi : String) (info : Info) : Document where
  openapi := openapi
  info := info
  paths := d.paths.mapValues fun item => item.mapValues Operation.trimmed
  schemas := d.schemas

section
variable (d : Document) (openapi : String) (info : Info)

theorem Document.endpoints_trimmed :
    (d.trimmed openapi info).endpoints = d.endpoints.map Endpoint.trimmed := by
  simp only [endpoints, trimmed, Table.entries_mapValues, List.flatMap_map, List.map_flatMap,
    List.map_map]
  rfl

namespace Modules

theorem clientsOf_trimmed :
    clientsOf (d.trimmed openapi info) = (clientsOf d).map (List.map Client.trimmed) := by
  have tags : (d.trimmed openapi info).firstTags = d.firstTags := by
    rw [Document.firstTags, Document.endpoints_trimmed, tagsOf_trimmed, Document.firstTags]
  have group (tag : String) : (d.trimmed openapi info).endpointsOf tag =
      (d.endpointsOf tag).map Endpoint.trimmed := by
    rw [Document.endpointsOf, Document.endpoints_trimmed, withTag_trimmed, Document.endpointsOf]
  have first : (d.trimmed openapi info).endpoints.find? Endpoint.untagged =
      (d.endpoints.find? Endpoint.untagged).map Endpoint.trimmed := by
    simp only [Document.endpoints_trimmed, List.find?_map, Function.comp_def,
      Endpoint.untagged_trimmed]
  rw [clientsOf_eq, clientsOf_eq, first]
  cases d.endpoints.find? Endpoint.untagged with
  | some e => rfl
  | none =>
    simp only [Option.map_none, tags, group, Client.generate_trimmed]
    exact mapM_map_results ..

theorem ofClients_trimmed (cs : List Client) (schemas : Option (Table String Schema)) :
    ofClients (cs.map Client.trimmed) schemas = ofClients cs schemas := by
  simp only [ofClients, typeNames, List.foldl_map, List.map_map, Function.comp_def,
    Client.typeNames_trimmed, Client.typeSource_trimmed, Client.source_trimmed]

/-- A trimmed document has the same modules, or the same fault. -/
theorem generate_trimmed_document : generate (d.trimmed openapi info) = generate d := by
  unfold generate
  rw [clientsOf_trimmed]
  cases clientsOf d with
  | error e => rfl
  | ok cs =>
    change Except.ok _ = Except.ok _
    rw [ofClients_trimmed]
    rfl

end Modules

end

end LoadClients

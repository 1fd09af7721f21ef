import LoadClients.Modules
import LoadClients.Proofs.Client.DistinctCalls
import LoadClients.Proofs.Occurrences
import Mathlib.Data.List.Perm.Basic

/-!
The clients of a document. There is one for each first tag, in the order in which the tags first
appear, and it is made of the operations with that tag alone, in the order of the document.
-/

namespace LoadClients

/-- The tag that chooses the client of an operation. -/
def Endpoint.firstTag (e : Endpoint) : Option String := e.operation.tags.head?

/-- The first tags in the order in which they first appear, each once. -/
def tagsOf (es : List Endpoint) : List String := (es.filterMap Endpoint.firstTag).eraseDups

def withTag (tag : String) (es : List Endpoint) : List Endpoint :=
  es.filter fun e => e.firstTag = some tag

theorem mem_tagsOf {es : List Endpoint} {tag : String} :
    tag ∈ tagsOf es ↔ ∃ e ∈ es, e.firstTag = some tag := by
  rw [tagsOf, List.mem_eraseDups, List.mem_filterMap]

theorem tagsOf_append {es : List Endpoint} {e : Endpoint} {tag : String}
    (h : e.firstTag = some tag) :
    tagsOf (es ++ [e]) = if tag ∈ tagsOf es then tagsOf es else tagsOf es ++ [tag] := by
  have tags : (es ++ [e]).filterMap Endpoint.firstTag =
      es.filterMap Endpoint.firstTag ++ [tag] := by
    rw [List.filterMap_append, List.filterMap_cons, h, List.filterMap_nil]
  unfold tagsOf
  rw [tags, eraseDups_append_singleton]
  simp only [List.mem_eraseDups]

/-- Elements gathered by their keys are the elements in another order. -/
theorem flatMap_filter_perm {α κ : Type} [DecidableEq κ] {key : α → Option κ} {ks : List κ}
    (hk : ks.Nodup) {l : List α} (h : ∀ a ∈ l, ∃ k ∈ ks, key a = some k) :
    (ks.flatMap fun k => l.filter fun a => key a = some k).Perm l := by
  induction ks generalizing l with
  | nil =>
    cases l with
    | nil => exact List.Perm.nil
    | cons a l =>
      obtain ⟨k, hk, _⟩ := h a (by simp)
      cases hk
  | cons k ks ih =>
    rw [List.nodup_cons] at hk
    let rest := l.filter fun a => !decide (key a = some k)
    have keyed : ∀ a ∈ rest, ∃ k ∈ ks, key a = some k := by
      intro a ha
      obtain ⟨hal, hne⟩ := List.mem_filter.mp ha
      obtain ⟨k', hk', eq⟩ := h a hal
      rcases List.mem_cons.mp hk' with rfl | later
      · simp [eq] at hne
      · exact ⟨k', later, eq⟩
    have same : ∀ k' ∈ ks, (l.filter fun a => key a = some k') =
        rest.filter fun a => key a = some k' := by
      intro k' hk'
      rw [List.filter_filter]
      apply List.filter_congr
      intro a _
      by_cases eq : key a = some k'
      · have ne : ¬ k' = k := fun bad => hk.1 (bad ▸ hk')
        simp [eq, ne]
      · simp [eq]
    rw [List.flatMap_cons, List.flatMap_congr same]
    have tail := (ih hk.2 keyed).append_left (l.filter fun a => key a = some k)
    exact tail.trans (List.filter_append_perm _ l)

/-- A table of groups holds exactly the operations of a list. -/
structure Collected (groups : Table String (List Endpoint)) (es : List Endpoint) : Prop where
  keys : groups.keys = tagsOf es
  group : ∀ tag, (groups.find? tag).getD [] = withTag tag es

namespace Collected

theorem empty : Collected Table.empty [] := ⟨rfl, fun _ => rfl⟩

theorem add {groups : Table String (List Endpoint)} {es : List Endpoint}
    (h : Collected groups es) {e : Endpoint} {tag : String} (ht : e.firstTag = some tag) :
    Collected (addToGroup tag e groups) (es ++ [e]) := by
  constructor
  · rw [addToGroup, Table.keys_put, tagsOf_append ht, h.keys]
  · intro other
    rw [addToGroup, Table.find?_put, withTag, List.filter_append]
    by_cases same : other = tag
    · subst same
      simp [h.group, withTag, ht]
    · have ne : ¬ tag = other := fun eq => same eq.symm
      simp [same, h.group, withTag, ht, ne]

theorem entries {groups : Table String (List Endpoint)} {es : List Endpoint}
    (h : Collected groups es) :
    groups.entries = (tagsOf es).map fun tag => (tag, withTag tag es) := by
  rw [← h.keys]
  apply Table.entries_eq_map_keys
  intro tag hk
  obtain ⟨group, hg⟩ := Option.isSome_iff_exists.mp (Table.isSome_find?_iff.mpr hk)
  have eq := h.group tag
  rw [hg] at eq
  rw [hg, ← eq, Option.getD_some]

theorem groupByTag {groups result : Table String (List Endpoint)} {es more : List Endpoint}
    (h : Collected groups es) (hg : groupByTag groups more = .ok result) :
    Collected result (es ++ more) ∧ ∀ e ∈ more, ∃ tag, e.firstTag = some tag := by
  induction more generalizing groups es with
  | nil =>
    cases hg
    rw [List.append_nil]
    exact ⟨h, fun e he => by cases he⟩
  | cons e more ih =>
    unfold LoadClients.groupByTag at hg
    split at hg
    · cases hg
    · next tag rest tags =>
      have first : e.firstTag = some tag := by rw [Endpoint.firstTag, tags, List.head?_cons]
      obtain ⟨collected, tagged⟩ := ih (h.add first) hg
      rw [List.append_assoc, List.singleton_append] at collected
      refine ⟨collected, ?_⟩
      intro e' he
      rcases List.mem_cons.mp he with rfl | later
      · exact ⟨tag, first⟩
      · exact tagged e' later

end Collected

def Document.firstTags (d : Document) : List String := tagsOf d.endpoints

def Document.endpointsOf (d : Document) (tag : String) : List Endpoint := withTag tag d.endpoints

namespace Modules

theorem clientsOf_eq_ok {d : Document} {cs : List Client} (h : clientsOf d = .ok cs) :
    (d.firstTags.map fun tag => Client.generate tag (d.endpointsOf tag)) = cs.map .ok ∧
      ∀ e ∈ d.endpoints, ∃ tag ∈ d.firstTags, e.firstTag = some tag := by
  obtain ⟨groups, hg, h⟩ := bind_eq_ok_iff.mp h
  obtain ⟨collected, tagged⟩ := Collected.empty.groupByTag hg
  rw [List.nil_append] at collected
  have results := mapM_eq_ok_iff.mp h
  rw [collected.entries, List.map_map] at results
  refine ⟨results, ?_⟩
  intro e he
  obtain ⟨tag, ht⟩ := tagged e he
  exact ⟨tag, mem_tagsOf.mpr ⟨e, he, ht⟩, ht⟩

instance : Inhabited Client := ⟨⟨"", []⟩⟩

/-- The methods of all clients are the operations of the document, in another order. -/
theorem endpoints_perm_of_clientsOf {d : Document} {cs : List Client} (h : clientsOf d = .ok cs) :
    (cs.flatMap fun c => c.methods.map (·.request.endpoint)).Perm d.endpoints := by
  obtain ⟨results, tagged⟩ := clientsOf_eq_ok h
  obtain ⟨client, made, rfl⟩ := exists_values results
  have endpoints : ∀ tag ∈ d.firstTags,
      (client tag).methods.map (·.request.endpoint) = d.endpointsOf tag := by
    intro tag ht
    exact Client.endpoints_of_generate (made tag ht)
  rw [List.flatMap_map, List.flatMap_congr endpoints]
  exact flatMap_filter_perm (nodup_eraseDups _) tagged

/-- Modules that hold one client for each first tag of a document. -/
structure ByTag (d : Document) (client : String → Client) (m : Modules) : Prop where
  distinct : d.firstTags.Nodup
  made : ∀ tag ∈ d.firstTags, Client.generate tag (d.endpointsOf tag) = .ok (client tag)
  lossless : (d.firstTags.flatMap fun tag =>
    (client tag).methods.map (·.request.endpoint)).Perm d.endpoints
  clients : m.clients = header ++ "\n\nimport http from \"k6/http\";\n" ++
    "import \x7b check \x7d from \"k6\";\n\n" ++
    "\n\n".intercalate (d.firstTags.map fun tag => (client tag).source)
  types : m.types = header ++ "\n\n" ++ "\n\n".intercalate
    (importLine (typeNames (d.firstTags.map client)) ++
      (d.firstTags.map fun tag => (client tag).typeSource) ++
      (d.schemas.map declarationsSource).toList)

theorem exists_byTag {d : Document} {m : Modules} (h : generate d = .ok m) :
    ∃ client, ByTag d client m := by
  obtain ⟨cs, hcs, h⟩ := bind_eq_ok_iff.mp h
  cases h
  have lossless := endpoints_perm_of_clientsOf hcs
  obtain ⟨results, _⟩ := clientsOf_eq_ok hcs
  obtain ⟨client, made, rfl⟩ := exists_values results
  rw [List.flatMap_map] at lossless
  refine ⟨client, nodup_eraseDups _, made, lossless, ?_, ?_⟩
  · simp only [ofClients, List.map_map, Function.comp_def]
  · simp only [ofClients, List.map_map, Function.comp_def]

/-- The clients are those of the first tags in order. A client depends on the operations of its tag
alone: two documents that agree on these have the same one. -/
theorem generate_by_first_tag {d d' : Document} {m m' : Modules} (h : generate d = .ok m)
    (h' : generate d' = .ok m') :
    ∃ client client' : String → Client, ByTag d client m ∧ ByTag d' client' m' ∧
      ∀ tag ∈ d.firstTags, d.endpointsOf tag = d'.endpointsOf tag →
        tag ∈ d'.firstTags ∧ client tag = client' tag := by
  obtain ⟨client, first⟩ := exists_byTag h
  obtain ⟨client', second⟩ := exists_byTag h'
  refine ⟨client, client', first, second, ?_⟩
  intro tag ht same
  have shared : tag ∈ d'.firstTags := by
    obtain ⟨e, he, htag⟩ := mem_tagsOf.mp ht
    have mine : e ∈ d.endpointsOf tag := List.mem_filter.mpr ⟨he, by simp [htag]⟩
    rw [same] at mine
    exact mem_tagsOf.mpr ⟨e, (List.mem_filter.mp mine).1, htag⟩
  have made := first.made tag ht
  rw [same, second.made tag shared] at made
  exact ⟨shared, (Except.ok.inj made).symm⟩

/-- Two paths, with operations of one tag around one of another. -/
def interleaved (other : Method) : Document where
  openapi := "3.0.0"
  info := ⟨"Beer", none, "1"⟩
  paths :=
    let tagged (tag : String) : Operation := ⟨[tag], none, none, none, [], none, Table.empty⟩
    Table.ofList [("/beer", Table.ofList [(.get, tagged "beer"), (other, tagged "bar")]),
      ("/keg", Table.ofList [(.get, tagged "beer")])]
  schemas := none

theorem generate_interleaved :
    ∃ m m', generate (interleaved .post) = .ok m ∧ generate (interleaved .put) = .ok m' ∧
      (interleaved .post).firstTags = ["beer", "bar"] ∧
      (interleaved .post).endpointsOf "beer" = (interleaved .put).endpointsOf "beer" ∧
      ∃ client client' : String → Client,
        ByTag (interleaved .post) client m ∧ ByTag (interleaved .put) client' m' ∧
        ∀ tag ∈ (interleaved .post).firstTags,
          (interleaved .post).endpointsOf tag = (interleaved .put).endpointsOf tag →
            tag ∈ (interleaved .put).firstTags ∧ client tag = client' tag := by
  have made : (generate (interleaved .post)).map (fun _ => ()) = .ok () := by decide +kernel
  have made' : (generate (interleaved .put)).map (fun _ => ()) = .ok () := by decide +kernel
  obtain ⟨m, h, _⟩ := map_eq_ok_iff.mp made
  obtain ⟨m', h', _⟩ := map_eq_ok_iff.mp made'
  exact ⟨m, m', h, h', by decide +kernel, rfl, generate_by_first_tag h h'⟩

end Modules

end LoadClients

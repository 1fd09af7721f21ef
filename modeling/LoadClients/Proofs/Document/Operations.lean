import LoadClients.Document.Reader
import LoadClients.Json.Reader
import LoadClients.Proofs.Source.Reading
import LoadClients.Proofs.Table

/-!
What a path item takes from its source: the values under the names of methods, and nothing else.
They are read in order up to the first that is no operation. If there is none such, each method has
its last operation, and the methods stand in the order in which they first came.
-/

namespace LoadClients

namespace Source

/-- The method that an entry of a path item has an operation for, with the value for it. -/
def declared? (src : Source) (e : Node × Node) : Option (Method × Node) :=
  match src.readText "a string" e.1 with
  | .ok key => (Method.ofName? key).map fun m => (m, e.2)
  | .error _ => none

/-- The operations that the entries of a path item declare, in order and unread. -/
def declared (src : Source) (es : List (Node × Node)) : List (Method × Node) :=
  es.filterMap src.declared?

/-- Entries under texts, with something well formed under each text that is no method. -/
structure Keyed (src : Source) (es : List (Node × Node)) : Prop where
  keyed : ∀ e ∈ es, ∃ key, src.readText "a string" e.1 = .ok key
  formed : ∀ e ∈ es, src.declared? e = none → e.2.sound

/-- Reads a declared operation, which lies under the name of its method. -/
def readDeclared (src : Source) (depth : Nat) (d : Method × Node) : Reading (Method × Operation) :=
  (Reading.below (.key d.1.name) (readOperation src depth d.2)).map fun o => (d.1, o)

variable {src : Source} {depth : Nat}

theorem Keyed.tail {e : Node × Node} {es : List (Node × Node)} (h : src.Keyed (e :: es)) :
    src.Keyed es :=
  ⟨fun e he => h.keyed e (List.mem_cons_of_mem _ he),
    fun e he => h.formed e (List.mem_cons_of_mem _ he)⟩

theorem declared?_of_readText {e : Node × Node} {key : String}
    (h : src.readText "a string" e.1 = .ok key) :
    src.declared? e = (Method.ofName? key).map fun m => (m, e.2) := by
  rw [declared?, h]

theorem readKey_of_readText {k : Node} {key : String} (h : src.readText "a string" k = .ok key) :
    src.readKey "a string" k = .ok key := by
  rw [readKey, h]
  rfl

section
variable {e : Node × Node} {key : String} (h : src.readText "a string" e.1 = .ok key)
include h

/-- An operation is read and written into the item. -/
theorem readPathEntries_of_declared {d : Method × Node} (kind : src.declared? e = some d)
    (item : PathItem) (es : List (Node × Node)) :
    readPathEntries src depth item (e :: es) = (do
      let o ← src.readDeclared depth d
      readPathEntries src depth (item.put o.1 o.2) es) := by
  rw [declared?_of_readText h] at kind
  obtain ⟨m, method, rfl⟩ := Option.map_eq_some_iff.mp kind
  have name := Method.ofName?_eq_some_iff.mp method
  have opened : readPathEntries src depth item (e :: es) = (do
      let o ← Reading.below (.key key) (readOperation src depth e.2)
      readPathEntries src depth (item.put m o) es) := by
    rw [readPathEntries, readKey_of_readText h]
    simp only [bind, Except.bind, method]
  rw [opened, readDeclared, name]
  cases Reading.below (.key key) (readOperation src depth e.2) <;> rfl

/-- What stands under another key is passed over. -/
theorem readPathEntries_of_passed (kind : src.declared? e = none) (sound : e.2.sound)
    (item : PathItem) (es : List (Node × Node)) :
    readPathEntries src depth item (e :: es) = readPathEntries src depth item es := by
  rw [declared?_of_readText h, Option.map_eq_none_iff] at kind
  rw [readPathEntries, readKey_of_readText h]
  simp only [bind, Except.bind, kind, skip, if_pos sound]

end

/-- The entries of a path item are read as the operations that they declare, one after the other,
and written into a table. -/
theorem readPathEntries_eq {es : List (Node × Node)} (h : src.Keyed es) (item : PathItem) :
    readPathEntries src depth item es =
      ((src.declared es).mapM (src.readDeclared depth)).map fun os =>
        os.foldl (fun t o => t.put o.1 o.2) item := by
  induction es generalizing item with
  | nil => rfl
  | cons e es ih =>
    obtain ⟨key, text⟩ := h.keyed e List.mem_cons_self
    rw [declared, List.filterMap_cons]
    cases kind : src.declared? e with
    | none =>
      have sound := h.formed e List.mem_cons_self kind
      rw [readPathEntries_of_passed text kind sound]
      exact ih h.tail item
    | some d =>
      rw [readPathEntries_of_declared text kind, List.mapM_cons]
      cases src.readDeclared depth d with
      | error f => rfl
      | ok o =>
        change readPathEntries src depth (item.put o.1 o.2) es = _
        rw [ih h.tail, declared]
        cases (es.filterMap src.declared?).mapM (src.readDeclared depth) <;> rfl

theorem readDeclared_eq_ok_iff {d : Method × Node} {o : Method × Operation} :
    src.readDeclared depth d = .ok o ↔ o.1 = d.1 ∧ readOperation src depth d.2 = .ok o.2 := by
  rw [readDeclared, map_eq_ok_iff]
  constructor
  · rintro ⟨o', value, rfl⟩
    exact ⟨rfl, Reading.below_eq_ok_iff.mp value⟩
  · rintro ⟨method, value⟩
    exact ⟨o.2, Reading.below_eq_ok_iff.mpr value, Prod.ext method.symm rfl⟩

section
variable {ds : List (Method × Node)} {os : List (Method × Operation)}
  (h : ds.map (src.readDeclared depth) = os.map .ok)
include h

theorem methods_of_readDeclared : os.map Prod.fst = ds.map Prod.fst := by
  induction ds generalizing os with
  | nil => rw [List.map_eq_nil_iff.mp h.symm, List.map_nil, List.map_nil]
  | cons d ds ih =>
    cases os with
    | nil => cases h
    | cons o os =>
      obtain ⟨head, tail⟩ := List.cons.inj h
      rw [List.map_cons, List.map_cons, (readDeclared_eq_ok_iff.mp head).1, ih tail]

/-- What is found among the operations that were read was read of what is found in their source. -/
theorem lookup_of_readDeclared (m : Method) (o : Operation) :
    os.lookup m = some o ↔ ∃ v, ds.lookup m = some v ∧ readOperation src depth v = .ok o := by
  induction ds generalizing os with
  | nil =>
    rw [List.map_eq_nil_iff.mp h.symm]
    simp
  | cons d ds ih =>
    cases os with
    | nil => cases h
    | cons o' os =>
      obtain ⟨head, tail⟩ := List.cons.inj h
      obtain ⟨method, value⟩ := readDeclared_eq_ok_iff.mp head
      obtain ⟨m', v⟩ := d
      obtain ⟨m'', a⟩ := o'
      cases method
      rw [lookup_cons_eq, lookup_cons_eq]
      by_cases same : m = m'
      · simp only [if_pos same, Option.some.injEq]
        constructor
        · rintro rfl
          exact ⟨v, rfl, value⟩
        · rintro ⟨_, rfl, value'⟩
          exact Except.ok.inj (value.symm.trans value')
      · simp only [if_neg same]
        exact ih tail

end

theorem readPathItem_eq {n : Node} {es : List (Node × Node)}
    (map : src.entries depth "a path item" n = .ok (es, true)) (h : src.Keyed es) :
    readPathItem src depth n =
      ((src.declared es).mapM (src.readDeclared (depth - 1))).map Table.ofList := by
  rw [readPathItem, map]
  change readPathEntries src (depth - 1) Table.empty es >>= closing true = _
  rw [readPathEntries_eq h]
  cases (src.declared es).mapM (src.readDeclared (depth - 1)) <;> rfl

/-- The fault that a declared operation has. -/
def declarationFault (src : Source) (depth : Nat) (d : Method × Node) : Option Fault :=
  failure? (Reading.below (.key d.1.name) (readOperation src depth d.2))

/-- A path item has the fault of the first of its declared operations that has one. If there is none
such, it has the declared methods in the order in which they first come, each with its last
operation. And it is the same for all entries that declare the same operations. -/
theorem readPathItem_declared {n : Node} {es : List (Node × Node)}
    (map : src.entries depth "a path item" n = .ok (es, true)) (h : src.Keyed es) :
    (∀ f, (src.declared es).findSome? (src.declarationFault (depth - 1)) = some f →
      readPathItem src depth n = .error f) ∧
    ((src.declared es).findSome? (src.declarationFault (depth - 1)) = none →
      ∃ item, readPathItem src depth n = .ok item ∧
        item.keys = ((src.declared es).map Prod.fst).eraseDups ∧
        ∀ m o, item.find? m = some o ↔ ∃ v, (src.declared es).reverse.lookup m = some v ∧
          readOperation src (depth - 1) v = .ok o) ∧
    ∀ n' es', src.entries depth "a path item" n' = .ok (es', true) → src.Keyed es' →
      src.declared es' = src.declared es →
      readPathItem src depth n' = readPathItem src depth n := by
  have fault : (src.declared es).findSome? (src.declarationFault (depth - 1)) =
      failure? ((src.declared es).mapM (src.readDeclared (depth - 1))) := by
    rw [failure?_mapM]
    congr
    funext d
    rw [readDeclared, failure?_map, declarationFault]
  refine ⟨?_, ?_, ?_⟩
  · intro f first
    rw [fault, failure?_eq_some_iff] at first
    rw [readPathItem_eq map h, first]
    rfl
  · intro none
    rw [fault, failure?_eq_none_iff] at none
    obtain ⟨os, read⟩ := none
    have each := mapM_eq_ok_iff.mp read
    refine ⟨Table.ofList os, ?_, ?_, ?_⟩
    · rw [readPathItem_eq map h, read]
      rfl
    · rw [Table.keys_ofList, methods_of_readDeclared each]
    · intro m o
      have backwards : (src.declared es).reverse.map (src.readDeclared (depth - 1)) =
          os.reverse.map .ok := by
        rw [List.map_reverse, List.map_reverse, each]
      rw [Table.find?_ofList, lookup_of_readDeclared backwards]
  · intro n' es' map' h' same
    rw [readPathItem_eq map' h', readPathItem_eq map h, same]

/-- A source for the tap of a keg, with the entries of its path item. -/
def tap : Source × List (Node × Node) :=
  let text (s : String) : Node := .scalar (Datum.text s).bare
  let summed (s : String) : Node := .map [(text "summary", text s)] true
  let es := [(text "get", summed "Looks"), (text "parameters", .list [] true),
    (text "put", summed "Opens"), (text "GET", text "Shouts"), (text "get", summed "Pours")]
  (⟨Json.format, .map es true, []⟩, es)

/-- The tap is looked at before it is opened, and pours. What is shouted at it is passed over. -/
theorem readPathItem_declared_tap :
    tap.1.entries 9 "a path item" tap.1.root = .ok (tap.2, true) ∧ tap.1.Keyed tap.2 ∧
    ∃ item o, readPathItem tap.1 9 tap.1.root = .ok item ∧ item.keys = [.get, .put] ∧
      item.find? .get = some o ∧ o.summary = some "Pours" := by
  have map : tap.1.entries 9 "a path item" tap.1.root = .ok (tap.2, true) := rfl
  have keyed : tap.1.Keyed tap.2 := ⟨by decide +kernel, by decide +kernel⟩
  have faultless : (tap.1.declared tap.2).findSome? (tap.1.declarationFault 8) = none := by
    decide +kernel
  obtain ⟨item, read, keys, values⟩ := (readPathItem_declared map keyed).2.1 faultless
  have last : (tap.1.declared tap.2).reverse.lookup .get = some tap.2[4].2 := rfl
  have value : readOperation tap.1 8 tap.2[4].2 =
      .ok { Operation.blank with summary := some "Pours" } := rfl
  exact ⟨map, keyed, item, _, read, keys.trans (by decide +kernel),
    (values .get _).mpr ⟨_, last, value⟩, rfl⟩

end Source

end LoadClients

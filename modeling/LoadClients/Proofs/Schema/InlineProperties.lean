import LoadClients.Proofs.Schema.Composition

/-!
The properties that the elements of a composition declare. An element is told apart by its keywords
before its properties are looked at, and only an object has a place for them: they are members of the
interface unless the element refers to another schema, enumerates values, is a composition itself, or
has another type.
-/

namespace LoadClients

namespace Keywords

/-- No keyword keeps the properties out: the keywords make an object if they declare any. -/
def describesObject (k : Keywords) : Bool :=
  k.reference.isNone && k.variants.isNone && k.parts.isNone &&
    (k.type = none ∨ k.type = some .object)

/-- The members that the declared properties stand for. -/
def declaredMembers (k : Keywords) : List Member :=
  (k.properties.getD []).map fun p => .property p.1 p.2.typeName (!k.required.contains p.1)

theorem propertyMembers_objectSchema (k : Keywords) :
    k.objectSchema.propertyMembers = k.declaredMembers := rfl

/-- Keywords that describe an object keep their properties, and all others lose them. -/
theorem propertyMembers_ofKeywords (k : Keywords) :
    (Schema.ofKeywords k).propertyMembers = if k.describesObject then k.declaredMembers else [] := by
  unfold Schema.ofKeywords describesObject
  cases reference : k.reference with
  | some path => rfl
  | none =>
    cases variants : k.variants with
    | some values => rfl
    | none =>
      cases parts : k.parts with
      | some parts => rfl
      | none =>
        cases type : k.type with
        | none =>
          cases properties : k.properties with
          | none =>
            -- without properties an object has no such members, and neither has any other schema
            cases k.additional <;>
              simp [declaredMembers, properties, objectSchema, Schema.propertyMembers]
          | some ps => simp [propertyMembers_objectSchema]
        | some t =>
          cases t with
          | object => exact propertyMembers_objectSchema k
          | _ => rfl

theorem mem_declaredMembers {k : Keywords} {p : String × Schema} (h : p ∈ k.properties.getD []) :
    ∃ optional, Member.property p.1 p.2.typeName optional ∈ k.declaredMembers ∧
      (optional = true ↔ p.1 ∉ k.required) :=
  ⟨!k.required.contains p.1, List.mem_map_of_mem h, by simp⟩

end Keywords

namespace Schema

theorem filter_members_contribution (s : Schema) :
    s.contribution.members.filter (· ≠ .index) = s.propertyMembers := by
  have properties : s.propertyMembers.filter (· ≠ .index) = s.propertyMembers := by
    rw [List.filter_eq_self]
    intro m hm
    rw [decide_eq_true_eq]
    rintro rfl
    exact s.index_not_mem_propertyMembers hm
  rw [members_contribution, List.filter_append, properties]
  cases s.isStringMap <;> simp

/-- A list of elements makes a composition, unless a reference or an enumeration wins over it. -/
theorem ofKeywords_of_parts {k : Keywords} {parts : List Schema} (reference : k.reference = none)
    (variants : k.variants = none) (given : k.parts = some parts) :
    ofKeywords k = composition parts k.default := by
  unfold ofKeywords
  rw [reference, variants, given]

/-- The members that stand for properties are those that the elements which describe objects declare,
in order. -/
theorem properties_of_elements (elements : List Keywords) :
    ((elements.map ofKeywords).flatMap fun p => p.contribution.members).filter (· ≠ .index) =
      (elements.filter (·.describesObject)).flatMap Keywords.declaredMembers := by
  rw [List.filter_flatMap, List.flatMap_map]
  simp only [filter_members_contribution, Keywords.propertyMembers_ofKeywords]
  induction elements with
  | nil => rfl
  | cons e elements ih => cases kept : e.describesObject <;> simp [kept, ih]

/-- A composition of elements is an interface. A property that an element declares is a member of it
if the element describes an object, optional exactly if the element does not require it, and the
interface has no other properties: elements with a keyword that wins over properties give none. -/
theorem composition_keeps_properties {k : Keywords} {elements : List Keywords}
    (reference : k.reference = none) (variants : k.variants = none)
    (given : k.parts = some (elements.map ofKeywords)) (name : String) :
    ∃ parents members, (ofKeywords k).declaration name = .interface name parents members ∧
      (∀ e ∈ elements, e.describesObject → ∀ p ∈ e.properties.getD [],
        ∃ optional, Member.property p.1 p.2.typeName optional ∈ members ∧
          (optional = true ↔ p.1 ∉ e.required)) ∧
      members.filter (· ≠ .index) =
        (elements.filter (·.describesObject)).flatMap Keywords.declaredMembers := by
  have properties := properties_of_elements elements
  rw [ofKeywords_of_parts reference variants given]
  refine ⟨_, _, rfl, ?_, properties⟩
  intro e he kept p hp
  obtain ⟨optional, declared, required⟩ := Keywords.mem_declaredMembers hp
  refine ⟨optional, ?_, required⟩
  have mem : Member.property p.1 p.2.typeName optional ∈
      (elements.filter (·.describesObject)).flatMap Keywords.declaredMembers :=
    List.mem_flatMap.mpr ⟨e, List.mem_filter.mpr ⟨he, kept⟩, declared⟩
  rw [← properties] at mem
  exact (List.mem_filter.mp mem).1

/-- The keywords with a property that is a text. -/
def declaring (property : String) (k : Keywords) : Keywords :=
  { k with properties := some [(property, .primitive (some .string) none)] }

/-- The keywords of a composition of elements. -/
def composing (elements : List Keywords) : Keywords :=
  { parts := some (elements.map ofKeywords) }

/-- Elements that declare a name beside values, beside parts, and beside a type other than that of
objects. -/
def nameless : List Keywords :=
  [{ variants := some [.text "tabby"] }, { parts := some [] }, { type := some .string }].map
    (declaring "name")

/-- None of these elements is a reference, and the name that each declares is lost. -/
theorem elements_lose_properties :
    nameless.map (·.reference) = [none, none, none] ∧
    nameless.map (fun k => (k.properties.getD []).map Prod.fst) = [["name"], ["name"], ["name"]] ∧
    nameless.map (fun k => (ofKeywords (composing [k])).declaration "Cat") =
      [.interface "Cat" [] [], .interface "Cat" [] [], .interface "Cat" [] []] :=
  ⟨rfl, rfl, rfl⟩

/-- An object that requires its property, an element without a type, and an enumeration. -/
def cats : List Keywords :=
  [declaring "name" { type := some .object, required := ["name"] }, declaring "coat" {},
    declaring "mood" { variants := some [.text "lazy"] }]

theorem composition_keeps_properties_cats :
    ∃ parents members,
      (ofKeywords (composing cats)).declaration "Cat" = .interface "Cat" parents members ∧
      (∃ optional, Member.property "coat" "string" optional ∈ members ∧ optional = true) ∧
      members.filter (· ≠ .index) =
        [.property "name" "string" false, .property "coat" "string" true] := by
  obtain ⟨parents, members, declared, kept, properties⟩ :=
    composition_keeps_properties (k := composing cats) rfl rfl rfl "Cat"
  obtain ⟨optional, member, required⟩ :=
    kept (declaring "coat" {}) (by simp [cats]) rfl ("coat", _) List.mem_cons_self
  exact ⟨parents, members, declared, ⟨optional, member, required.mpr List.not_mem_nil⟩, properties⟩

end Schema

end LoadClients

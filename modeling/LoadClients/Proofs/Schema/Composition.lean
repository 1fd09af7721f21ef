import LoadClients.Schema.Declaration
import Mathlib.Data.List.Basic

/-!
The interface of a composition. Its references are parents, and each inline object gives what it
would declare on its own. As the two kinds of parts give to different ends of the interface, it does
not matter how they stand among each other.
-/

namespace LoadClients

namespace Declaration

def parents : Declaration → List String
  | enumeration _ _ => []
  | interface _ parents _ => parents

def members : Declaration → List Member
  | enumeration _ _ => []
  | interface _ _ members => members

end Declaration

namespace Schema

def isReference (s : Schema) : Bool := s.path?.isSome

def isObject : Schema → Bool
  | object _ _ _ _ => true
  | _ => false

/-- The name of the schema that is referred to. -/
def referencedName? (s : Schema) : Option String := s.path?.map Naming.referenceName

/-- An object with strings under further keys. -/
def isStringMap : Schema → Bool
  | object _ _ (some values) _ => values.type = some .string
  | _ => false

/-- The parent that an object has: what its values under further keys refer to, unless they are
strings. -/
def mapParent? : Schema → Option String
  | object _ _ (some values) _ =>
    if values.type = some .string then none else values.reference.map Naming.referenceName
  | _ => none

/-- The members that the properties of an object are. -/
def propertyMembers : Schema → List Member
  | object properties required _ _ =>
    properties.map fun p => .property p.1 p.2.typeName (!required.contains p.1)
  | _ => []

theorem parents_contribution (s : Schema) : s.contribution.parents = s.mapParent?.toList := by
  cases s with
  | object properties required additional _ =>
    cases additional with
    | none => rfl
    | some values => by_cases strings : values.type = some .string <;>
        simp [contribution, Contribution.ofObject, mapParent?, strings]
  | _ => rfl

theorem members_contribution (s : Schema) : s.contribution.members =
    s.propertyMembers ++ if s.isStringMap then [.index] else [] := by
  cases s with
  | object properties required additional _ =>
    cases additional with
    | none => simp [contribution, Contribution.ofObject, propertyMembers, isStringMap]
    | some values => by_cases strings : values.type = some .string <;>
        simp [contribution, Contribution.ofObject, propertyMembers, isStringMap, strings]
  | _ => rfl

theorem index_not_mem_propertyMembers (s : Schema) : .index ∉ s.propertyMembers := by
  cases s <;> simp [propertyMembers]

/-- What an object contributes is its own declaration. -/
theorem declaration_of_isObject {s : Schema} (h : s.isObject) (name : String) :
    s.declaration name = .interface name s.contribution.parents s.contribution.members := by
  cases s with
  | object => rfl
  | _ => cases h

theorem contribution_of_not_isObject {s : Schema} (h : s.isObject = false) :
    s.contribution = ⟨[], []⟩ := by
  cases s with
  | object => cases h
  | _ => rfl

/-- Only objects count for what parts contribute. -/
theorem flatMap_filter_isObject {α : Type} {f : Contribution → List α} (empty : f ⟨[], []⟩ = [])
    (parts : List Schema) :
    (parts.filter isObject).flatMap (fun p => f p.contribution) =
      parts.flatMap fun p => f p.contribution := by
  induction parts with
  | nil => rfl
  | cons p parts ih =>
    cases object : p.isObject with
    | true => rw [List.filter_cons_of_pos object, List.flatMap_cons, List.flatMap_cons, ih]
    | false =>
      rw [List.filter_cons_of_neg (by simp [object]), List.flatMap_cons, ih,
        contribution_of_not_isObject object, empty, List.nil_append]

theorem members_composition (parts : List Schema) (own : String) :
    (parts.flatMap fun p => p.contribution.members) =
      (parts.filter isObject).flatMap fun p => (p.declaration own).members := by
  rw [← flatMap_filter_isObject rfl]
  refine List.flatMap_congr fun p hp => ?_
  rw [declaration_of_isObject (List.mem_filter.mp hp).2 own, Declaration.members]

theorem parents_composition (parts : List Schema) :
    (parts.flatMap fun p => p.contribution.parents) =
      (parts.filter isObject).filterMap mapParent? := by
  rw [← flatMap_filter_isObject rfl, List.filterMap_eq_flatMap_toList]
  simp only [parents_contribution]

theorem references_composition (parts : List Schema) :
    (parts.filterMap path?).map Naming.referenceName =
      (parts.filter isReference).filterMap referencedName? := by
  rw [List.filterMap_filter, List.map_filterMap]
  refine List.filterMap_congr fun p _ => ?_
  cases path : p.path? <;> simp [isReference, referencedName?, path]

/-- A composition declares the parents and members that its references and its inline objects give,
in this order. -/
theorem declaration_composition (name : String) (parts : List Schema) (default : Option Value)
    (own : String) :
    (composition parts default).declaration name =
      .interface name
        ((parts.filter isReference).filterMap referencedName? ++
          (parts.filter isObject).filterMap mapParent?)
        ((parts.filter isObject).flatMap fun p => (p.declaration own).members) := by
  rw [declaration, references_composition, parents_composition, members_composition parts own]

theorem declaration_composition_singleton {p : Schema} (h : p.isObject) (name : String)
    (default : Option Value) : (composition [p] default).declaration name = p.declaration name := by
  have plain : p.path? = none := by
    cases p with
    | object => rfl
    | _ => cases h
  rw [declaration_of_isObject h, declaration]
  simp only [List.filterMap_cons, plain, List.filterMap_nil, List.map_nil, List.nil_append,
    List.flatMap_cons, List.flatMap_nil, List.append_nil]

/-- Besides its properties an object declares either an index for further keys with strings, or at
most one parent. -/
structure IndexOrParent (p : Schema) (d : Declaration) : Prop where
  index : p.isStringMap → d.members = p.propertyMembers ++ [.index] ∧ d.parents = []
  parent : ¬ p.isStringMap → d.members = p.propertyMembers ∧ d.parents = p.mapParent?.toList
  properties : .index ∉ p.propertyMembers

theorem mapParent?_of_isStringMap {s : Schema} (h : s.isStringMap) : s.mapParent? = none := by
  cases s with
  | object _ _ additional _ =>
    cases additional with
    | none => cases h
    | some values => exact if_pos (of_decide_eq_true h)
  | _ => cases h

theorem indexOrParent_of_isObject {p : Schema} (h : p.isObject) (name : String) :
    p.IndexOrParent (p.declaration name) := by
  rw [declaration_of_isObject h, members_contribution, parents_contribution]
  refine ⟨?_, ?_, p.index_not_mem_propertyMembers⟩
  · intro strings
    rw [if_pos strings, mapParent?_of_isStringMap strings]
    exact ⟨rfl, rfl⟩
  · intro other
    rw [if_neg other, List.append_nil]
    exact ⟨rfl, rfl⟩

/-- The interface of a composition has the referenced names as parents and behind them those of its
inline objects, and the members that each inline object declares on its own. So it depends on the
references and on the inline objects, but not on how they are mixed, and one inline object alone
declares what it does outside of a composition. -/
theorem composition_law (name : String) (parts : List Schema) (default : Option Value) :
    (∀ own, (composition parts default).declaration name =
      .interface name
        ((parts.filter isReference).filterMap referencedName? ++
          (parts.filter isObject).filterMap mapParent?)
        ((parts.filter isObject).flatMap fun p => (p.declaration own).members)) ∧
    (∀ parts' default', parts'.filter isReference = parts.filter isReference →
      parts'.filter isObject = parts.filter isObject →
      (composition parts' default').declaration name =
        (composition parts default).declaration name) ∧
    (∀ (p : Schema) (default' : Option Value), p.isObject →
      (composition [p] default').declaration name = p.declaration name) ∧
    ∀ p : Schema, p.isObject → p.IndexOrParent (p.declaration name) := by
  refine ⟨declaration_composition name parts default, ?_, ?_, ?_⟩
  · intro parts' default' references objects
    rw [declaration_composition name parts' default' name,
      declaration_composition name parts default name, references, objects]
  · intro p default' object
    exact declaration_composition_singleton object name default'
  · intro p object
    exact indexOrParent_of_isObject object name

/-- A reference to a shared schema. -/
def pet : Schema := .reference "#/schemas/Pet"

/-- An object whose further keys have strings, although a reference is given for them too. -/
def labels : Schema :=
  .object [("name", .primitive (some .string) none)] ["name"]
    (some ⟨some .string, some "#/schemas/Label"⟩) none

/-- An object whose further keys refer to a shared schema. -/
def owners : Schema :=
  .object [("age", .primitive (some .integer) none)] [] (some ⟨none, some "#/schemas/Owner"⟩) none

theorem composition_law_pets :
    (composition [labels, pet, owners] none).declaration "Cat" =
      .interface "Cat" ["Pet", "Owner"]
        [.property "name" "string" false, .index, .property "age" "number" true] ∧
    (composition [pet, labels, owners] none).declaration "Cat" =
      (composition [labels, pet, owners] none).declaration "Cat" ∧
    (composition [owners] none).declaration "Cat" = owners.declaration "Cat" ∧
    labels.IndexOrParent (labels.declaration "Cat") := by
  obtain ⟨declared, mixed, alone, either⟩ := composition_law "Cat" [labels, pet, owners] none
  refine ⟨?_, mixed _ _ rfl rfl, alone _ _ rfl, either _ rfl⟩
  rw [declared "Cat"]
  decide +kernel

end Schema

end LoadClients

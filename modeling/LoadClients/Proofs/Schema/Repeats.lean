import LoadClients.Json.Reader
import LoadClients.Proofs.Schema.Composition
import LoadClients.Proofs.Schema.Reading
import Mathlib.Data.List.Nodup

/-!
Members and parents that an interface has twice. The properties of one object have distinct names,
and one object has at most one parent. A composition puts what its parts give one behind the other
and compares nothing: what two of its parts give alike stands there twice.
-/

namespace LoadClients

def Member.propertyName? : Member → Option String
  | property name _ _ => some name
  | index => none

def Declaration.propertyNames (d : Declaration) : List String :=
  d.members.filterMap Member.propertyName?

namespace Schema

def isComposition : Schema → Bool
  | composition _ _ => true
  | _ => false

/-- The parent that a part of a composition gives. -/
def parentName? (s : Schema) : Option String := s.referencedName?.or s.mapParent?

/-- The parts name no parent in common. -/
def ParentsApart (p q : Schema) : Prop :=
  ∀ parent, p.parentName? = some parent → q.parentName? ≠ some parent

theorem propertyNames_contribution (s : Schema) :
    s.contribution.members.filterMap Member.propertyName? = s.keys := by
  have properties : s.propertyMembers.filterMap Member.propertyName? = s.keys := by
    cases s with
    | object properties =>
      rw [propertyMembers, List.filterMap_map]
      exact congrFun List.filterMap_eq_map properties
    | _ => rfl
  rw [members_contribution, List.filterMap_append, properties]
  cases s.isStringMap <;> simp [Member.propertyName?]

/-- The names of the members are those that the objects declare, one object after the other. -/
theorem propertyNames_declaration (s : Schema) (name : String) :
    (s.declaration name).propertyNames = s.contributors.flatMap keys := by
  have alone : (s.contribution.members.filterMap Member.propertyName?) = [s].flatMap keys := by
    rw [propertyNames_contribution, List.flatMap_singleton]
  cases s with
  | composition parts default =>
    change (parts.flatMap fun p => p.contribution.members).filterMap Member.propertyName? =
      parts.flatMap keys
    rw [List.filterMap_flatMap]
    simp only [propertyNames_contribution]
  | _ => exact alone

theorem mapParent?_of_referencedName? {s : Schema} {parent : String}
    (h : s.referencedName? = some parent) : s.mapParent? = none := by
  cases s with
  | reference path => rfl
  | _ => cases h

/-- What the references give and what the objects give is, in some order, what the parts name. -/
theorem parentNames_perm (parts : List Schema) :
    (parts.filterMap referencedName? ++ parts.filterMap mapParent?).Perm
      (parts.filterMap parentName?) := by
  induction parts with
  | nil => exact .nil
  | cons p parts ih =>
    rw [List.filterMap_cons, List.filterMap_cons, List.filterMap_cons, parentName?]
    cases reference : p.referencedName? with
    | some parent =>
      rw [mapParent?_of_referencedName? reference]
      exact ih.cons parent
    | none =>
      cases p.mapParent? with
      | none => exact ih
      | some parent => exact List.perm_middle.trans (ih.cons parent)

theorem nodup_parents_composition {parts : List Schema} {default : Option Value} {name : String} :
    ((composition parts default).declaration name).parents.Nodup ↔
      parts.Pairwise ParentsApart := by
  have referenced : (parts.filterMap path?).map Naming.referenceName =
      parts.filterMap referencedName? := List.map_filterMap
  have contributed : (parts.flatMap fun p => p.contribution.parents) =
      parts.filterMap mapParent? := by
    simp only [parents_contribution, List.filterMap_eq_flatMap_toList]
  rw [declaration, Declaration.parents, referenced, contributed,
    (parentNames_perm parts).nodup_iff, List.Nodup, List.pairwise_filterMap]
  refine List.Pairwise.iff fun p q => ?_
  constructor
  · intro apart parent hp hq
    exact apart parent hp parent hq rfl
  · intro apart parent hp parent' hq same
    exact apart parent hp (same ▸ hq)

theorem nodup_parents_of_not_isComposition {s : Schema} (h : s.isComposition = false)
    (name : String) : (s.declaration name).parents.Nodup := by
  have single : s.contribution.parents.Nodup := by
    rw [parents_contribution]
    cases s.mapParent? <;> simp
  cases s with
  | composition => cases h
  | enumeration => exact List.nodup_nil
  | _ => exact single

theorem contributors_of_not_isComposition {s : Schema} (h : s.isComposition = false) :
    s.contributors = [s] := by
  cases s with
  | composition => cases h
  | _ => rfl

theorem nodup_propertyNames_iff {s : Schema} (regular : s.Regular) (name : String) :
    (s.declaration name).propertyNames.Nodup ↔
      s.contributors.Pairwise fun p q => p.keys.Disjoint q.keys := by
  rw [propertyNames_declaration, List.nodup_flatMap]
  exact and_iff_right regular

theorem nodup_parents_iff (s : Schema) (name : String) :
    (s.declaration name).parents.Nodup ↔ s.contributors.Pairwise ParentsApart := by
  cases kind : s.isComposition with
  | true =>
    cases s with
    | composition => exact nodup_parents_composition
    | _ => cases kind
  | false =>
    rw [contributors_of_not_isComposition kind]
    exact iff_of_true (nodup_parents_of_not_isComposition kind name) (List.pairwise_singleton _ _)

/-- The interface of a schema that a document shares has two members of one name exactly if two
objects among its parts declare a property of that name, and a parent twice exactly if two of its
parts name it. A schema that is no composition has one part only, and its members and parents are
distinct. -/
theorem interface_nodup_iff {src : Source} {d : Document} (read : readDocument src = .ok d)
    {name : String} {s : Schema} (shared : (name, s) ∈ d.sharedSchemas) :
    ((s.declaration name).propertyNames.Nodup ↔
      s.contributors.Pairwise fun p q => p.keys.Disjoint q.keys) ∧
    ((s.declaration name).parents.Nodup ↔ s.contributors.Pairwise ParentsApart) ∧
    (s.isComposition = false →
      (s.declaration name).propertyNames.Nodup ∧ (s.declaration name).parents.Nodup) := by
  have members := nodup_propertyNames_iff (regular_readDocument read _ shared) name
  refine ⟨members, nodup_parents_iff s name, ?_⟩
  intro kind
  rw [members, contributors_of_not_isComposition kind]
  exact ⟨List.pairwise_singleton _ _, nodup_parents_of_not_isComposition kind name⟩

/-- A text in a source tree. -/
def word (s : String) : Node := .scalar (Datum.text s).bare

/-- A table in a source tree. -/
def fields (es : List (String × Node)) : Node := .map (es.map fun e => (word e.1, e.2)) true

/-- The source of a document with nothing but shared schemas. -/
def sharing (schemas : List (String × Node)) : Source where
  format := Json.format
  anchors := []
  root := fields [("openapi", word "3.0.0"),
    ("info", fields [("title", word "Pets"), ("version", word "1")]), ("paths", fields []),
    ("components", fields [("schemas", fields schemas)])]

/-- Two objects with a property of one name, and references to one name in two places. -/
def siblings : Source :=
  sharing
    [("Cat", fields [("allOf", .list
      [fields [("properties", fields [("name", fields [])])],
        fields [("properties", fields [("name", fields [])])]] true)]),
    ("Dog", fields [("allOf", .list
      [fields [("$ref", word "tame/Pet")], fields [("$ref", word "wild/Pet")]] true)])]

theorem interfaces_repeat :
    ∃ d, readDocument siblings = .ok d ∧
      (∃ e ∈ d.sharedSchemas, ¬ (e.2.declaration e.1).propertyNames.Nodup) ∧
      ∃ e ∈ d.sharedSchemas, ¬ (e.2.declaration e.1).parents.Nodup := by
  have texts : (readDocument siblings).map
      (fun d => d.sharedSchemas.map fun e => e.2.declaration e.1) =
        .ok [.interface "Cat" [] [.property "name" "any" true, .property "name" "any" true],
          .interface "Dog" ["Pet", "Pet"] []] := by
    decide +kernel
  obtain ⟨d, read, declared⟩ := map_eq_ok_iff.mp texts
  obtain ⟨cat, hcat, catDeclared⟩ := List.mem_map.mp (declared ▸ List.mem_cons_self)
  obtain ⟨dog, hdog, dogDeclared⟩ :=
    List.mem_map.mp (declared ▸ List.mem_cons_of_mem _ List.mem_cons_self)
  refine ⟨d, read, ⟨cat, hcat, ?_⟩, dog, hdog, ?_⟩
  · rw [catDeclared]
    decide
  · rw [dogDeclared]
    decide

/-- Two objects with properties of two names, and two parents. -/
def cousins : Source :=
  sharing
    [("Cat", fields [("allOf", .list
      [fields [("properties", fields [("name", fields [])])], fields [("$ref", word "tame/Pet")],
        fields [("properties", fields [("coat", fields [])]),
          ("additionalProperties", fields [("$ref", word "Label")])]] true)])]

theorem interface_nodup_iff_cousins :
    ∃ d, readDocument cousins = .ok d ∧
      ∃ e ∈ d.sharedSchemas,
        (e.2.declaration e.1).propertyNames = ["name", "coat"] ∧
        (e.2.declaration e.1).parents = ["Pet", "Label"] ∧
        (e.2.contributors.Pairwise fun p q => p.keys.Disjoint q.keys) ∧
        e.2.contributors.Pairwise ParentsApart := by
  have texts : (readDocument cousins).map
      (fun d => d.sharedSchemas.map fun e => e.2.declaration e.1) =
        .ok [.interface "Cat" ["Pet", "Label"]
          [.property "name" "any" true, .property "coat" "any" true]] := by
    decide +kernel
  obtain ⟨d, read, declared⟩ := map_eq_ok_iff.mp texts
  obtain ⟨e, he, cat⟩ := List.mem_map.mp (declared ▸ List.mem_cons_self)
  obtain ⟨members, parents, _⟩ := interface_nodup_iff read he
  rw [cat] at members parents
  refine ⟨d, read, e, he, ?_, ?_, members.mp (by decide), parents.mp (by decide)⟩
  · rw [cat]
    rfl
  · rw [cat]
    rfl

end Schema

end LoadClients

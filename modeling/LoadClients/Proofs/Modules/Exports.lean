import LoadClients.Proofs.Modules.ClientsByTag
import LoadClients.Proofs.Text.Ends

/-!
The names that the modules export. A class is named after a tag and a declaration after a schema, so
that names agree where tags differ in the case of their first character alone, or where a schema is
named like a class.
-/

namespace LoadClients

/-- A text that exports a name: a class, an enumeration or an interface. -/
def Exports (name source : String) : Prop :=
  ∃ keyword ∈ ["export class ", "export enum ", "export interface "],
    BeginsWith source (keyword ++ name ++ " ")

theorem Exports.beginsWith {name source : String} (h : Exports name source) :
    BeginsWith source "export " := by
  obtain ⟨keyword, mem, begins⟩ := h
  have front : BeginsWith keyword "export " := by
    simp only [List.mem_cons, List.not_mem_nil, or_false] at mem
    rcases mem with rfl | rfl | rfl
    · exact ⟨"class ", rfl⟩
    · exact ⟨"enum ", rfl⟩
    · exact ⟨"interface ", rfl⟩
  exact begins.trans ((front.append_right _).append_right _)

theorem exports_map {α : Type} {name source : α → String} {l : List α}
    (h : ∀ a ∈ l, Exports (name a) (source a)) :
    List.Forall₂ Exports (l.map name) (l.map source) := by
  rwa [List.forall₂_map_left_iff, List.forall₂_map_right_iff, List.forall₂_same]

namespace Client

variable (c : Client)

theorem exports_source : Exports c.className c.source := by
  have brace : BeginsWith " \x7b\n" " " := ⟨"\x7b\n", rfl⟩
  refine ⟨"export class ", by simp, ?_⟩
  unfold source
  simp only [String.append_assoc]
  exact .append_left _ (.append_left _ (brace.append_right _))

theorem exports_typeSource : Exports c.className c.typeSource := by
  have brace : BeginsWith " \x7b\n" " " := ⟨"\x7b\n", rfl⟩
  refine ⟨"export class ", by simp, ?_⟩
  unfold typeSource
  simp only [String.append_assoc]
  exact .append_left _ (.append_left _ (brace.append_right _))

theorem className_of_generate {tag : String} {es : List Endpoint} {c : Client}
    (h : generate tag es = .ok c) : c.className = classNameOf tag := by
  obtain ⟨rs, _, rfl⟩ := generate_eq_ok_iff.mp h
  rfl

end Client

namespace Declaration

theorem exports_source (d : Declaration) : Exports d.name d.source := by
  cases d with
  | enumeration name members =>
    have brace : BeginsWith " \x7b\n" " " := ⟨"\x7b\n", rfl⟩
    refine ⟨"export enum ", by simp, ?_⟩
    unfold source Declaration.name
    simp only [String.append_assoc]
    exact .append_left _ (.append_left _ (brace.append_right _))
  | interface name parents members =>
    refine ⟨"export interface ", by simp, ?_⟩
    unfold source Declaration.name
    simp only [String.append_assoc]
    refine .append_left _ (.append_left _ ?_)
    -- the name is followed by the parents, or by the brace when there are none
    cases parents with
    | nil =>
      have brace : BeginsWith " \x7b" " " := ⟨"\x7b", rfl⟩
      rw [List.isEmpty_nil, if_pos rfl, String.empty_append]
      exact brace.append_right _
    | cons parent parents =>
      have extension : BeginsWith " extends " " " := ⟨"extends ", rfl⟩
      rw [List.isEmpty_cons, if_neg Bool.false_ne_true]
      exact (extension.append_right _).append_right _

end Declaration

theorem Schema.name_declaration (name : String) (s : Schema) :
    (s.declaration name).name = name := by
  cases s <;> rfl

namespace Naming

/-- The first character alone is changed: texts that begin alike are told apart by the rest. -/
theorem capitalize_inj_of_head {s t : String} (head : s.toList.head? = t.toList.head?)
    (h : capitalize s = capitalize t) : s = t := by
  have chars : capitalizeHead s.toList = capitalizeHead t.toList := String.ofList_injective h
  rw [← String.toList_inj]
  cases hs : s.toList with
  | nil =>
    rw [hs, List.head?_nil] at head
    exact (List.head?_eq_none_iff.mp head.symm).symm
  | cons c cs =>
    cases ht : t.toList with
    | nil => rw [hs, ht] at head; cases head
    | cons d ds =>
      rw [hs, ht, List.head?_cons, List.head?_cons, Option.some.injEq] at head
      subst head
      rw [hs, ht, capitalizeHead, capitalizeHead, List.append_cancel_left_eq] at chars
      rw [chars]

end Naming

theorem classNameOf_eq_iff {tag tag' : String} :
    classNameOf tag = classNameOf tag' ↔ Naming.capitalize tag = Naming.capitalize tag' := by
  rw [classNameOf, classNameOf, String.append_left_inj]

namespace Document

variable (d : Document)

/-- The classes, one for each first tag. -/
def classNames : List String := d.firstTags.map classNameOf

def declarations : List Declaration := (d.schemas.map LoadClients.declarations).getD []

/-- The declarations, one for each schema. -/
def declaredNames : List String := d.declarations.map Declaration.name

theorem nodup_declaredNames : d.declaredNames.Nodup := by
  unfold declaredNames declarations
  cases d.schemas with
  | none => exact List.nodup_nil
  | some schemas =>
    have keys : (LoadClients.declarations schemas).map Declaration.name = schemas.keys := by
      simp only [LoadClients.declarations, List.map_map, Function.comp_def, Schema.name_declaration,
        Table.keys]
    rw [Option.map_some, Option.getD_some, keys]
    exact schemas.nodup_keys

theorem nodup_classNames_iff : d.classNames.Nodup ↔ (d.firstTags.map Naming.capitalize).Nodup := by
  have suffix : d.classNames = (d.firstTags.map Naming.capitalize).map (· ++ "Client") := by
    rw [List.map_map]
    rfl
  rw [suffix, List.nodup_map_iff]
  intro s t same
  exact (String.append_left_inj _).mp same

theorem nodup_exports_iff : (d.classNames ++ d.declaredNames).Nodup ↔
    (d.firstTags.map Naming.capitalize).Nodup ∧
      ∀ tag ∈ d.firstTags, classNameOf tag ∉ d.declaredNames := by
  rw [List.nodup_append', d.nodup_classNames_iff, List.disjoint_left]
  simp only [d.nodup_declaredNames, true_and]
  unfold classNames
  simp only [List.forall_mem_map]

end Document

namespace Modules

/-- Modules whose texts export the classes and the declarations of a document, in their order. -/
structure Exporting (d : Document) (m : Modules) : Prop where
  clients : ∃ classes, List.Forall₂ Exports d.classNames classes ∧
    m.clients = header ++ "\n\nimport http from \"k6/http\";\n" ++
      "import \x7b check \x7d from \"k6\";\n\n" ++ "\n\n".intercalate classes
  types : ∃ names classes declarations, List.Forall₂ Exports d.classNames classes ∧
    List.Forall₂ Exports d.declaredNames declarations ∧
    m.types = header ++ "\n\n" ++ "\n\n".intercalate (importLine names ++ classes ++
      (d.schemas.map fun _ => "\n\n".intercalate declarations).toList)

theorem exporting_of_generate {d : Document} {m : Modules} (h : generate d = .ok m) :
    Exporting d m := by
  obtain ⟨client, byTag⟩ := exists_byTag h
  have className : ∀ tag ∈ d.firstTags, (client tag).className = classNameOf tag := by
    intro tag ht
    exact Client.className_of_generate (byTag.made tag ht)
  constructor
  · refine ⟨d.firstTags.map fun tag => (client tag).source, ?_, byTag.clients⟩
    apply exports_map
    intro tag ht
    rw [← className tag ht]
    exact (client tag).exports_source
  · refine ⟨typeNames (d.firstTags.map client), d.firstTags.map fun tag => (client tag).typeSource,
      d.declarations.map Declaration.source, ?_, ?_, ?_⟩
    · apply exports_map
      intro tag ht
      rw [← className tag ht]
      exact (client tag).exports_typeSource
    · exact exports_map fun declaration _ => declaration.exports_source
    · have shared : (d.schemas.map declarationsSource) =
          d.schemas.map fun _ => "\n\n".intercalate (d.declarations.map Declaration.source) := by
        unfold Document.declarations
        cases d.schemas <;> rfl
      rw [← shared]
      exact byTag.types

/-- What the modules export is distinct exactly when the tags differ in more than the case of their
first character, and no schema is named like a class. Declarations are always told apart, and so are
the classes of tags that begin with the same character. -/
theorem generate_exports_distinct_iff {d : Document} {m : Modules} (h : generate d = .ok m) :
    Exporting d m ∧ d.declaredNames.Nodup ∧
      (d.classNames.Nodup ↔ (d.firstTags.map Naming.capitalize).Nodup) ∧
      ((d.classNames ++ d.declaredNames).Nodup ↔ (d.firstTags.map Naming.capitalize).Nodup ∧
        ∀ tag ∈ d.firstTags, classNameOf tag ∉ d.declaredNames) ∧
      ∀ tag tag', tag ≠ tag' → classNameOf tag = classNameOf tag' →
        tag.toList.head? ≠ tag'.toList.head? := by
  refine ⟨exporting_of_generate h, d.nodup_declaredNames, d.nodup_classNames_iff,
    d.nodup_exports_iff, ?_⟩
  intro tag tag' different same head
  exact different (Naming.capitalize_inj_of_head head (classNameOf_eq_iff.mp same))

/-- Operations under tags, and schemas without any keywords. -/
def pantry (tags names : List String) : Document where
  openapi := "3.0.0"
  info := ⟨"Pantry", none, "1"⟩
  paths := Table.ofList (tags.map fun tag => ("/" ++ tag, Table.ofList [(.get,
    ⟨[tag], none, none, none, [], none, Table.ofList [("200", ⟨none, none⟩)]⟩)]))
  schemas := some (Table.ofList (names.map fun name => (name, Schema.any)))

/-- Two tags that differ in the case of their first character, and a schema that is named like a
class. -/
theorem pantry_exports_twice :
    (∃ m, generate (pantry ["beer", "Beer"] []) = .ok m) ∧
      ¬ (pantry ["beer", "Beer"] []).classNames.Nodup ∧
    (∃ m, generate (pantry ["beer"] ["BeerClient"]) = .ok m) ∧
      (pantry ["beer"] ["BeerClient"]).classNames.Nodup ∧
      ¬ ((pantry ["beer"] ["BeerClient"]).classNames ++
        (pantry ["beer"] ["BeerClient"]).declaredNames).Nodup := by
  have twice : (pantry ["beer", "Beer"] []).classNames = ["BeerClient", "BeerClient"] := by
    decide +kernel
  have class_name : (pantry ["beer"] ["BeerClient"]).classNames = ["BeerClient"] := by
    decide +kernel
  have declared : (pantry ["beer"] ["BeerClient"]).declaredNames = ["BeerClient"] := by
    decide +kernel
  rw [twice, class_name, declared]
  exact ⟨by decide +kernel, by decide, by decide +kernel, by decide, by decide⟩

theorem generate_exports_distinct_pantry :
    ∃ m, generate (pantry ["beer", "wine"] ["Beer", "Wine"]) = .ok m ∧
      Exporting (pantry ["beer", "wine"] ["Beer", "Wine"]) m ∧
      (pantry ["beer", "wine"] ["Beer", "Wine"]).classNames = ["BeerClient", "WineClient"] ∧
      ((pantry ["beer", "wine"] ["Beer", "Wine"]).classNames ++
        (pantry ["beer", "wine"] ["Beer", "Wine"]).declaredNames).Nodup := by
  obtain ⟨m, h⟩ : ∃ m, generate (pantry ["beer", "wine"] ["Beer", "Wine"]) = .ok m := by
    decide +kernel
  obtain ⟨exporting, _, _, distinct, _⟩ := generate_exports_distinct_iff h
  exact ⟨m, h, exporting, by decide +kernel, distinct.mpr (by decide +kernel)⟩

end Modules

end LoadClients

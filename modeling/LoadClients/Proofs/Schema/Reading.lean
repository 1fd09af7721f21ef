import LoadClients.Proofs.Source.Reading
import LoadClients.Document.Reader

/-!
Keys of schemas that are read. The properties of a schema are read as a table, so that no object has
two of one name. This is so for all schemas that a document shares, and for the parts of those that
are compositions.
-/

namespace LoadClients

open Source

namespace Schema

/-- The names of the properties of an object. -/
def keys : Schema → List String
  | object properties _ _ _ => properties.map Prod.fst
  | _ => []

/-- What an interface is declared from: the parts of a composition, and any other schema alone. -/
def contributors : Schema → List Schema
  | composition parts _ => parts
  | s => [s]

/-- No object that an interface is declared from has two properties of one name. -/
def Regular (s : Schema) : Prop := ∀ p ∈ s.contributors, p.keys.Nodup

instance (s : Schema) : Decidable s.Regular :=
  inferInstanceAs (Decidable (∀ p ∈ s.contributors, p.keys.Nodup))

end Schema

namespace Keywords

/-- The names of the properties are distinct. -/
def Keyed (k : Keywords) : Prop := ((k.properties.getD []).map Prod.fst).Nodup

/-- So are those of the parts. -/
structure Regular (k : Keywords) : Prop where
  keyed : k.Keyed
  parts : ∀ p ∈ k.parts.getD [], p.keys.Nodup

theorem Keyed.nodup_keys {k : Keywords} (h : k.Keyed) : (Schema.ofKeywords k).keys.Nodup := by
  unfold Schema.ofKeywords
  split
  case h_5 => exact h
  case h_6 =>
    split
    · exact h
    · exact List.nodup_nil
  all_goals exact List.nodup_nil

theorem Regular.ofKeywords {k : Keywords} (h : k.Regular) : (Schema.ofKeywords k).Regular := by
  intro p hp
  have whole : (Schema.ofKeywords k).keys.Nodup := h.keyed.nodup_keys
  cases made : Schema.ofKeywords k with
  | composition parts default =>
    rw [made] at hp
    have given : k.parts.getD [] = parts := by
      unfold Schema.ofKeywords at made
      split at made
      case h_3 given => cases made; rw [given, Option.getD_some]
      case h_6 => split at made <;> cases made
      all_goals cases made
    exact h.parts p (given ▸ hp)
  | _ =>
    rw [made] at hp whole
    rw [List.mem_singleton.mp hp]
    exact whole

variable {src : Source} {depth : Nat} {read readBelow : Source → Node → Reading Keywords}
  {k k' : Keywords} {field : String} {n : Node}

/-- A keyword that is put into regular keywords keeps them so, if the parts that it has are. -/
theorem regular_put (h : k.put src depth read readBelow field n = .ok k')
    (below : ∀ n k, readBelow src n = .ok k → k.Regular) (start : k.Regular) : k'.Regular := by
  unfold put at h
  split at h
  case h_4 =>
    obtain ⟨t, _, h⟩ := bind_eq_ok_iff.mp h
    cases h
    refine ⟨?_, start.parts⟩
    cases t with
    | none => exact List.nodup_nil
    | some t => exact t.nodup_keys
  case h_9 =>
    obtain ⟨parts, given, h⟩ := bind_eq_ok_iff.mp h
    cases h
    refine ⟨start.keyed, ?_⟩
    intro p hp
    cases parts with
    | none => cases hp
    | some parts =>
      obtain ⟨_, item⟩ := exists_of_mem_readList (eq_some_of_readOptional given rfl) hp
      obtain ⟨_, keywords, rfl⟩ := map_eq_ok_iff.mp item
      exact (below _ _ keywords).keyed.nodup_keys
  case h_10 =>
    cases h
    exact start
  all_goals
    obtain ⟨_, _, h⟩ := bind_eq_ok_iff.mp h
    cases h
    exact ⟨start.keyed, start.parts⟩

theorem regular_blank : Regular {} := ⟨List.nodup_nil, fun _ hp => nomatch hp⟩

end Keywords

variable {src : Source} {depth : Nat} {n : Node}

/-- Reads a part of a composition, which lies in the list of parts. -/
def readPart : Nat → Source → Node → Reading Keywords
  | 0 => fun _ _ => .error .malformed
  | depth + 1 => readKeywords depth

theorem readKeywords_succ (depth : Nat) (src : Source) (n : Node) :
    readKeywords (depth + 1) src n =
      src.readRecord (depth + 1) Keywords.shape
        (Keywords.put src depth (readKeywords depth) (readPart depth)) {} n := by
  cases depth <;> rfl

theorem regular_readKeywords {k : Keywords} (h : readKeywords depth src n = .ok k) :
    k.Regular := by
  induction depth using Nat.strongRecOn generalizing n k with
  | ind depth ih =>
    cases depth with
    | zero =>
      change src.readRecord 0 Keywords.shape (fun k _ _ => pure k) {} n = .ok k at h
      refine readRecord_invariant ?_ h Keywords.regular_blank
      rintro draft field n _ start ⟨⟩
      exact start
    | succ depth =>
      rw [readKeywords_succ] at h
      refine readRecord_invariant ?_ h Keywords.regular_blank
      intro draft field n draft' start written
      refine Keywords.regular_put written ?_ start
      intro n k part
      cases depth with
      | zero => cases part
      | succ depth => exact ih depth (by omega) part

theorem regular_readSchema {s : Schema} (h : readSchema src depth n = .ok s) : s.Regular := by
  obtain ⟨k, keywords, rfl⟩ := map_eq_ok_iff.mp h
  exact (regular_readKeywords keywords).ofKeywords

/-- The schemas that the document shares. -/
def Document.sharedSchemas (d : Document) : List (String × Schema) :=
  (d.schemas.map Table.entries).getD []

def regularEntries (t : Table String Schema) : Prop := ∀ e ∈ t.entries, e.2.Regular

theorem regular_readComponents {t : Table String Schema} (h : readComponents src depth n = .ok t) :
    regularEntries t := by
  refine readRecord_invariant (P := regularEntries) ?_ h (fun _ he => nomatch he)
  intro draft field n draft' start written
  split at written
  · intro e he
    obtain ⟨_, schema⟩ := exists_of_mem_readTable written he
    exact regular_readSchema schema
  · cases written
    exact start

/-- Every schema that a document shares is regular. -/
theorem regular_readDocument {d : Document} (h : readDocument src = .ok d) :
    ∀ e ∈ d.sharedSchemas, e.2.Regular := by
  obtain ⟨draft, record, h⟩ := bind_eq_ok_iff.mp h
  obtain ⟨_, _, h⟩ := bind_eq_ok_iff.mp h
  obtain ⟨_, _, h⟩ := bind_eq_ok_iff.mp h
  obtain ⟨_, _, h⟩ := bind_eq_ok_iff.mp h
  cases h
  have shared : ∀ t, draft.schemas = some t → regularEntries t := by
    refine readRecord_invariant (P := fun d => ∀ t, d.schemas = some t → regularEntries t) ?_
      record (fun _ ht => nomatch ht)
    intro draft field n draft' start written
    split at written
    case h_4 =>
      obtain ⟨schemas, given, written⟩ := bind_eq_ok_iff.mp written
      cases written
      intro t ht
      exact regular_readComponents (eq_some_of_readOptional given ht)
    case h_5 => cases written; exact start
    all_goals
      obtain ⟨_, _, written⟩ := bind_eq_ok_iff.mp written
      cases written
      exact start
  unfold Document.sharedSchemas
  cases schemas : draft.schemas with
  | none => exact fun _ he => nomatch he
  | some t => exact shared t schemas

end LoadClients

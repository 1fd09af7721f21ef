import LoadClients.Proofs.CallSpace.LeastName
import LoadClients.Proofs.Client.DistinctCalls

/-!
Methods with one name. Names are kept apart only as far as calls are, so that methods may share a
name when they take different arguments. A class holds one method under a name: the last of those
that share it hides the others, and the names that the class has of its own are hidden or hide as
well.
-/

namespace LoadClients

/-- A number never ends a name in anything but a digit. -/
theorem isDigit_of_getLast?_numbered {name : String} {n : Nat} {c : Char}
    (h : (numbered name n).toList.getLast? = some c) : c.isDigit := by
  have last : (Nat.toDigits 10 n).getLast? = some c := by
    rwa [toList_numbered, List.getLast?_append_of_ne_nil _ Nat.toDigits_ne_nil] at h
  exact Nat.isDigit_of_mem_toDigits (by decide) (by decide) (List.mem_of_getLast? last)

namespace Client

/-- The constructor, and the fields that it sets. -/
def ownNames : List String := ["constructor", "baseUrl", "params"]

theorem numbered_not_mem_ownNames (name : String) (n : Nat) : numbered name n ∉ ownNames := by
  intro own
  have plain : ∀ w ∈ ownNames, w.toList.getLast?.any (!·.isDigit) := by decide
  obtain ⟨c, last, other⟩ := (Option.any_eq_true _ _).mp (plain _ own)
  simp [isDigit_of_getLast?_numbered last] at other

end Client

/-- Every call that is taken has one of some names, and none of them has a parenthesis. -/
structure CallSpace.TakenUnder (s : CallSpace) (names : List String) : Prop where
  plain : ∀ name ∈ names, '(' ∉ name.toList
  named : ∀ call, s.taken call → ∃ name ∈ names, ∃ args, call = callText name args

namespace CallSpace.TakenUnder

theorem empty : TakenUnder CallSpace.empty [] := by
  refine ⟨by simp, ?_⟩
  intro call taken
  simp [CallSpace.taken_iff, CallSpace.empty, Table.keys] at taken

variable {s : CallSpace} {names : List String} {name : String}

/-- A name that none of these calls has is given as it is. -/
theorem assign_name (h : TakenUnder s names) (plain : '(' ∉ name.toList) (new : name ∉ names)
    (args : String) : (s.assign name args).1 = name := by
  rcases s.assign_cases name args with ⟨_, eq⟩ | ⟨count, n, found, _, _, _, _⟩
  · rw [eq]
  · have taken : s.taken (callText name args) := by simp [CallSpace.taken, found]
    obtain ⟨other, mem, args', same⟩ := h.named _ taken
    obtain ⟨rfl, _⟩ := callText_inj plain (h.plain other mem) same
    exact absurd mem new

theorem assign (h : TakenUnder s names) (plain : '(' ∉ name.toList) (new : name ∉ names)
    (args : String) : TakenUnder (s.assign name args).2 (name :: names) := by
  constructor
  · intro other mem
    rcases List.mem_cons.mp mem with rfl | mem
    · exact plain
    · exact h.plain other mem
  · intro call taken
    rcases (s.taken_assign_iff name args call).mp taken with rfl | taken
    · exact ⟨name, by simp, args, by rw [h.assign_name plain new]⟩
    · obtain ⟨other, mem, args', same⟩ := h.named call taken
      exact ⟨other, by simp [mem], args', same⟩

end CallSpace.TakenUnder

/-- Where all base names are different, methods keep them. -/
theorem names_nameMethods_of_nodup (tag : String) {s : CallSpace} {names : List String}
    (h : s.TakenUnder names) {rs : List Request} (plain : ∀ r ∈ rs, '(' ∉ (r.baseName tag).toList)
    (distinct : (rs.map (·.baseName tag)).Nodup) (new : ∀ r ∈ rs, r.baseName tag ∉ names) :
    (nameMethods tag s rs).map (·.name) = rs.map (·.baseName tag) := by
  induction rs generalizing s names with
  | nil => rfl
  | cons r rs ih =>
    have plain_r := plain r (by simp)
    have new_r := new r (by simp)
    rw [List.map_cons, List.nodup_cons] at distinct
    have later : ∀ r' ∈ rs, r'.baseName tag ∉ r.baseName tag :: names := by
      intro r' mem again
      rcases List.mem_cons.mp again with same | old
      · exact distinct.1 (List.mem_map.mpr ⟨r', mem, same⟩)
      · exact new r' (by simp [mem]) old
    have rest := ih (h.assign plain_r new_r (ClientMethod.argumentText r))
      (fun r' mem => plain r' (by simp [mem])) distinct.2 later
    simp only [nameMethods, List.map_cons]
    rw [h.assign_name plain_r new_r, rest]

namespace Client

/-- How far the names of the methods of a client are their own. -/
structure NamesApart (tag : String) (c : Client) : Prop where
  /-- methods of one name differ in their argument lists -/
  arguments : c.methods.Pairwise fun m m' => m.name = m'.name →
    ClientMethod.argumentText m.request ≠ ClientMethod.argumentText m'.request
  /-- the names of the class come from operations, and never from a number -/
  own : ∀ m ∈ c.methods, m.name ∈ ownNames → m.request.baseName tag = m.name
  /-- different base names are kept, so that no two methods share one -/
  kept : (∀ m ∈ c.methods, '(' ∉ (m.request.baseName tag).toList) →
    (c.methods.map fun m => m.request.baseName tag).Nodup →
      c.methods.map (·.name) = c.methods.map fun m => m.request.baseName tag

theorem generate_names_apart {tag : String} {es : List Endpoint} {c : Client}
    (h : generate tag es = .ok c) : NamesApart tag c := by
  obtain ⟨rs, _, rfl⟩ := generate_eq_ok_iff.mp h
  refine ⟨?_, ?_, ?_⟩
  · have calls := List.pairwise_map.mp (nodup_calls_nameMethods tag CallSpace.empty rs)
    refine calls.imp fun {m m'} different name arguments => different ?_
    rw [ClientMethod.call, ClientMethod.call, name, arguments]
  · intro m hm own
    rcases name_of_mem_nameMethods tag CallSpace.counted_empty hm with same | ⟨k, _, renamed⟩
    · exact same.symm
    · rw [renamed] at own
      exact absurd own (numbered_not_mem_ownNames _ _)
  · intro plain distinct
    have requests := nameMethods_requests tag CallSpace.empty rs
    have bases : ((nameMethods tag CallSpace.empty rs).map fun m => m.request.baseName tag) =
        rs.map (·.baseName tag) := by
      conv_rhs => rw [← requests, List.map_map]
      rfl
    rw [bases] at distinct ⊢
    refine names_nameMethods_of_nodup tag .empty ?_ distinct (by simp)
    intro r hr
    rw [← requests] at hr
    obtain ⟨m, hm, rfl⟩ := List.mem_map.mp hr
    exact plain m hm

/-- Operations under one identifier each, of which some take a parameter. -/
def pours (ids : List (String × List Parameter)) : List Endpoint :=
  ids.map fun id =>
    ⟨"/beer", .get, ⟨["beer"], none, none, some id.1, id.2, none, Table.empty⟩⟩

/-- Three operations of which two have one identifier, with different arguments, and the third is
named like the constructor. -/
def overloads : List Endpoint :=
  pours [("pour", []), ("pour", [⟨"size", .query, true, none, Schema.any⟩]), ("constructor", [])]

/-- The first method is hidden by the second, and the third is no method. -/
theorem overloads_share_name :
    ∃ c, generate "beer" overloads = .ok c ∧
      c.methods.map (·.call) = ["pour(params = undefined)", "pour(size, params = undefined)",
        "constructor(params = undefined)"] ∧
      ¬ (c.methods.map (·.name)).Nodup ∧ ∃ m ∈ c.methods, m.name ∈ ownNames := by
  have names : (generate "beer" overloads).map
      (fun c => (c.methods.map (·.call), c.methods.map (·.name))) =
        .ok (["pour(params = undefined)", "pour(size, params = undefined)",
          "constructor(params = undefined)"], ["pour", "pour", "constructor"]) := by
    decide +kernel
  obtain ⟨c, h, eq⟩ := map_eq_ok_iff.mp names
  obtain ⟨calls, names⟩ := Prod.mk.inj eq
  refine ⟨c, h, calls, ?_, ?_⟩
  · rw [names]
    decide
  · have mem : "constructor" ∈ c.methods.map (·.name) := by
      rw [names]
      decide
    obtain ⟨m, hm, name⟩ := List.mem_map.mp mem
    exact ⟨m, hm, by rw [name]; decide⟩

theorem generate_names_apart_overloads :
    ∃ c, generate "beer" overloads = .ok c ∧ NamesApart "beer" c := by
  obtain ⟨c, h⟩ : ∃ c, generate "beer" overloads = .ok c := by decide +kernel
  exact ⟨c, h, generate_names_apart h⟩

end Client

end LoadClients

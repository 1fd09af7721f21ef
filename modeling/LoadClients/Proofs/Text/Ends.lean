import Mathlib.Data.List.Basic

/-!
How a text begins and how it ends. Texts are left in the pieces that they are put together from, so
that no proof has to evaluate one, and the pieces at one end tell texts apart.
-/

namespace LoadClients

def BeginsWith (text front : String) : Prop := ∃ rest, text = front ++ rest

namespace BeginsWith
variable {a b t u : String}

theorem append_left (a : String) (h : BeginsWith b t) : BeginsWith (a ++ b) (a ++ t) := by
  obtain ⟨rest, rfl⟩ := h
  exact ⟨rest, String.append_assoc.symm⟩

theorem append_left_iff : BeginsWith (a ++ b) (a ++ t) ↔ BeginsWith b t := by
  refine ⟨?_, append_left a⟩
  rintro ⟨rest, same⟩
  rw [String.append_assoc, String.append_right_inj] at same
  exact ⟨rest, same⟩

theorem append_right (h : BeginsWith a t) (b : String) : BeginsWith (a ++ b) t := by
  obtain ⟨rest, rfl⟩ := h
  exact ⟨rest ++ b, String.append_assoc⟩

theorem trans (h : BeginsWith a t) (ht : BeginsWith t u) : BeginsWith a u := by
  obtain ⟨rest, rfl⟩ := h
  exact ht.append_right rest

theorem unique (ht : BeginsWith a t) (hu : BeginsWith a u) (length : t.length = u.length) :
    t = u := by
  obtain ⟨rest, rfl⟩ := ht
  obtain ⟨rest', same⟩ := hu
  rw [← String.toList_inj, String.toList_append, String.toList_append] at same
  rw [← String.length_toList, ← String.length_toList] at length
  exact String.toList_inj.mp (List.append_inj same length).1

theorem intercalate (h : BeginsWith a t) (separator : String) (as : List String) :
    BeginsWith (separator.intercalate (a :: as)) t := by
  cases as with
  | nil =>
    rw [String.intercalate_singleton]
    exact h
  | cons b as =>
    rw [String.intercalate_cons_cons]
    exact (h.append_right _).append_right _

theorem utf8ByteSize_le (h : BeginsWith a t) : t.utf8ByteSize ≤ a.utf8ByteSize := by
  obtain ⟨rest, rfl⟩ := h
  rw [String.utf8ByteSize_append]
  exact Nat.le_add_right _ _

theorem isValid (h : BeginsWith a t) : String.Pos.Raw.IsValid a ⟨t.utf8ByteSize⟩ := by
  obtain ⟨rest, same⟩ := h
  exact String.Pos.Raw.isValid_iff_exists_append.mpr ⟨t, rest, same, rfl⟩

/-- Of two beginnings of a text one begins with the other. -/
theorem total (ht : BeginsWith a t) (hu : BeginsWith a u) : BeginsWith t u ∨ BeginsWith u t := by
  obtain ⟨rest, rfl⟩ := ht
  obtain ⟨rest', same⟩ := hu
  rw [← String.toList_inj, String.toList_append, String.toList_append] at same
  rcases List.append_eq_append_iff.mp same with ⟨mid, later, _⟩ | ⟨mid, later, _⟩
  · exact Or.inr ⟨String.ofList mid, by simp [← String.toList_inj, later]⟩
  · exact Or.inl ⟨String.ofList mid, by simp [← String.toList_inj, later]⟩

theorem eq_of_utf8ByteSize_le (h : BeginsWith t u) (size : t.utf8ByteSize ≤ u.utf8ByteSize) :
    t = u := by
  obtain ⟨rest, rfl⟩ := h
  rw [String.utf8ByteSize_append] at size
  have empty : rest = "" := String.utf8ByteSize_eq_zero_iff.mp (by omega)
  rw [empty, String.append_empty]

theorem eq_of_utf8ByteSize_eq (ht : BeginsWith a t) (hu : BeginsWith a u)
    (size : t.utf8ByteSize = u.utf8ByteSize) : t = u := by
  rcases ht.total hu with h | h
  · exact h.eq_of_utf8ByteSize_le (Nat.le_of_eq size)
  · exact (h.eq_of_utf8ByteSize_le (Nat.le_of_eq size.symm)).symm

end BeginsWith

def EndsWith (text tail : String) : Prop := ∃ front, text = front ++ tail

namespace EndsWith
variable {a b t u v : String}

theorem self (t : String) : EndsWith t t := ⟨"", String.empty_append.symm⟩

theorem append_left (a : String) (h : EndsWith b t) : EndsWith (a ++ b) t := by
  obtain ⟨front, rfl⟩ := h
  exact ⟨a ++ front, String.append_assoc.symm⟩

theorem append_right (h : EndsWith a t) (u : String) : EndsWith (a ++ u) (t ++ u) := by
  obtain ⟨front, rfl⟩ := h
  exact ⟨front, String.append_assoc⟩

theorem trans (h : EndsWith a t) (ht : EndsWith t u) : EndsWith a u := by
  obtain ⟨front, rfl⟩ := h
  exact ht.append_left front

theorem unique (hu : EndsWith a u) (hv : EndsWith a v) (length : u.length = v.length) : u = v := by
  obtain ⟨front, rfl⟩ := hu
  obtain ⟨front', same⟩ := hv
  rw [← String.toList_inj, String.toList_append, String.toList_append] at same
  rw [← String.length_toList, ← String.length_toList] at length
  exact String.toList_inj.mp (List.append_inj' same length).2

end EndsWith

end LoadClients

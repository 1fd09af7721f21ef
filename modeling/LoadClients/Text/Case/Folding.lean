import LoadClients.Text.Case.Tables

/-! Equality of texts that disregards case. -/

namespace LoadClients.Text

def fold (cs : List Char) : List Char := cs.flatMap foldMapping.apply

/-- The texts differ at most in case. -/
def sameFolded (a b : String) : Bool := fold a.toList == fold b.toList

theorem sameFolded_refl (a : String) : sameFolded a a = true := by
  simp [sameFolded]

end LoadClients.Text

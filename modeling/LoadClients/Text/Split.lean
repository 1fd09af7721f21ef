/-! A text cut at separators. -/

namespace LoadClients.Text

def prependToHead (c : Char) : List (List Char) → List (List Char)
  | [] => [[c]]
  | l :: ls => (c :: l) :: ls

/-- The parts between separators. There is one more of them than there are separators. -/
def splitWhere (p : Char → Bool) : List Char → List (List Char)
  | [] => [[]]
  | c :: cs => if p c then [] :: splitWhere p cs else prependToHead c (splitWhere p cs)

theorem prependToHead_ne_nil (c : Char) (ls : List (List Char)) : prependToHead c ls ≠ [] := by
  cases ls <;> simp [prependToHead]

theorem splitWhere_ne_nil (p : Char → Bool) (cs : List Char) : splitWhere p cs ≠ [] := by
  cases cs with
  | nil => simp [splitWhere]
  | cons c cs =>
    rw [splitWhere]
    split
    · simp
    · exact prependToHead_ne_nil _ _

end LoadClients.Text

import LoadClients.Text.Split

/-!
The lines of a text. A line feed, a carriage return, and a carriage return with the line feed after
it each end one line; the end of the text ends the last.
-/

namespace LoadClients.Text

def splitLines : List Char → List (List Char)
  | [] => [[]]
  | '\r' :: '\n' :: cs => [] :: splitLines cs
  | c :: cs =>
    if c = '\r' ∨ c = '\n' then [] :: splitLines cs else prependToHead c (splitLines cs)

def lines (s : String) : List String := (splitLines s.toList).map String.ofList

theorem splitLines_ne_nil (cs : List Char) : splitLines cs ≠ [] := by
  fun_induction splitLines cs with
  | case1 => simp
  | case2 => simp
  | case3 => simp
  | case4 => exact prependToHead_ne_nil _ _

end LoadClients.Text

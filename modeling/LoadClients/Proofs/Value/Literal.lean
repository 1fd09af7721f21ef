import LoadClients.Text.Digits
import LoadClients.Value.Text
import Mathlib.Data.List.Basic

/-!
Literals of texts, as a script reads them. Character by character the reader is in one of a few
modes, and every character either ends the literal, is refused, or adds code units and changes the
mode. A literal has its quotes doubled and nothing else replaced: a script reads the text back
exactly if there is nothing to replace, and a reader for which doubled quotes stand for one always
does.
-/

namespace LoadClients

namespace Script

/-- A character as code units of sixteen bits: one, or a pair of surrogates. -/
def codeUnits (n : Nat) : List UInt16 :=
  if n < 0x10000 then [.ofNat n]
  else [.ofNat (0xd800 + (n - 0x10000) / 0x400), .ofNat (0xdc00 + (n - 0x10000) % 0x400)]

def units (cs : List Char) : List UInt16 := cs.flatMap fun c => codeUnits c.toNat

/-- Where the reader is inside a literal. -/
inductive Mode where
  | text
  /-- behind a backslash -/
  | escape
  /-- behind an escaped zero, which no digit may follow -/
  | zero
  /-- behind an escaped carriage return, which a line feed may follow -/
  | feed
  /-- behind the letter of a code point escape -/
  | unicode
  /-- before one digit and so many more -/
  | digits (more value : Nat)
  /-- inside the braces of a code point escape -/
  | braced (value : Option Nat)

/-- What a character does to the reader. -/
inductive Step where
  | fails
  | ends
  | adds (us : List UInt16) (next : Mode)

/-- The code of a character behind a backslash. -/
def escapeCode : Char → Nat
  | 'b' => 8
  | 't' => 9
  | 'n' => 10
  | 'v' => 11
  | 'f' => 12
  | 'r' => 13
  | c => c.toNat

def stepText (c : Char) : Step :=
  if c = '"' then .ends
  else if c = '\\' then .adds [] .escape
  else if c = '\n' ∨ c = '\r' then .fails
  else .adds (codeUnits c.toNat) .text

/-- A line end behind a backslash adds nothing. -/
def stepEscape (c : Char) : Step :=
  if c = 'x' then .adds [] (.digits 1 0)
  else if c = 'u' then .adds [] .unicode
  else if c = '0' then .adds [0] .zero
  else if c.isDigit then .fails
  else if c = '\r' then .adds [] .feed
  else if c = '\n' ∨ c = '\u2028' ∨ c = '\u2029' then .adds [] .text
  else .adds (codeUnits (escapeCode c)) .text

def stepDigits (more value : Nat) (c : Char) : Step :=
  match Text.hexValue? c, more with
  | none, _ => .fails
  | some d, 0 => .adds [.ofNat (16 * value + d)] .text
  | some d, more + 1 => .adds [] (.digits more (16 * value + d))

def stepBraced (value : Option Nat) (c : Char) : Step :=
  if c = '\x7d' then
    match value with
    | none => .fails
    | some n => .adds (codeUnits n) .text
  else
    match Text.hexValue? c with
    | none => .fails
    | some d =>
      if 16 * value.getD 0 + d ≤ 0x10ffff then .adds [] (.braced (some (16 * value.getD 0 + d)))
      else .fails

def Mode.step : Mode → Char → Step
  | text, c => stepText c
  | escape, c => stepEscape c
  | zero, c => if c.isDigit then .fails else stepText c
  | feed, c => if c = '\n' then .adds [] .text else stepText c
  | unicode, c => if c = '\x7b' then .adds [] (.braced none) else stepDigits 3 0 c
  | digits more value, c => stepDigits more value c
  | braced value, c => stepBraced value c

/-- The code units up to the quote that ends the literal, and what comes behind it. -/
def readFrom : Mode → List Char → Option (List UInt16 × List Char)
  | _, [] => none
  | m, c :: cs =>
    match m.step c with
    | .fails => none
    | .ends => some ([], cs)
    | .adds us next => (readFrom next cs).map fun read => (us ++ read.1, read.2)

/-- A text in double quotes, by the rules of a module. -/
def readLiteral : List Char → Option (List UInt16 × List Char)
  | '"' :: cs => readFrom .text cs
  | _ => none

/-- The text up to the first quote that is alone. Of doubled quotes one is read. -/
def readDoubledFrom : List Char → Option (List Char × List Char)
  | '"' :: '"' :: cs => (readDoubledFrom cs).map fun read => ('"' :: read.1, read.2)
  | '"' :: cs => some ([], cs)
  | c :: cs => (readDoubledFrom cs).map fun read => (c :: read.1, read.2)
  | [] => none

def readDoubled : List Char → Option (List Char × List Char)
  | '"' :: cs => readDoubledFrom cs
  | _ => none

/-! Only a quote ends a literal, and no character adds more code units than it has itself, but that
the code point in braces may be a pair. -/

theorem eq_quote_of_stepText_ends {c : Char} (h : stepText c = .ends) : c = '"' := by
  by_contra other
  rw [stepText, if_neg other] at h
  split_ifs at h

theorem eq_quote_of_step_ends {m : Mode} {c : Char} (h : m.step c = .ends) : c = '"' := by
  cases m with
  | text => exact eq_quote_of_stepText_ends h
  | escape =>
    simp only [Mode.step, stepEscape] at h
    split_ifs at h
  | zero =>
    simp only [Mode.step] at h
    split_ifs at h
    exact eq_quote_of_stepText_ends h
  | feed =>
    simp only [Mode.step] at h
    split_ifs at h
    exact eq_quote_of_stepText_ends h
  | unicode =>
    simp only [Mode.step, stepDigits] at h
    split_ifs at h
    split at h <;> exact Step.noConfusion h
  | digits more value =>
    simp only [Mode.step, stepDigits] at h
    split at h <;> exact Step.noConfusion h
  | braced value =>
    simp only [Mode.step, stepBraced] at h
    repeat' split at h
    all_goals exact Step.noConfusion h

/-- Code units that may still be added beyond those of the characters to come. -/
def Mode.spare : Mode → Nat
  | braced _ => 1
  | _ => 0

theorem codeUnits_pos (n : Nat) : 0 < (codeUnits n).length := by
  unfold codeUnits
  split <;> exact Nat.succ_pos _

theorem codeUnits_le_two (n : Nat) : (codeUnits n).length ≤ 2 := by
  unfold codeUnits
  split <;> simp

theorem length_escapeCode_le (c : Char) :
    (codeUnits (escapeCode c)).length ≤ (codeUnits c.toNat).length := by
  unfold escapeCode
  split
  all_goals first | decide | exact Nat.le_refl _

theorem length_stepText {c : Char} {us : List UInt16} {next : Mode}
    (h : stepText c = .adds us next) :
    us.length + next.spare ≤ (codeUnits c.toNat).length := by
  unfold stepText at h
  split_ifs at h <;> cases h
  · exact Nat.zero_le _
  · exact Nat.le_refl _

theorem length_stepDigits {more value : Nat} {c : Char} {us : List UInt16} {next : Mode}
    (h : stepDigits more value c = .adds us next) :
    us.length + next.spare ≤ (codeUnits c.toNat).length := by
  unfold stepDigits at h
  split at h <;> cases h
  · exact codeUnits_pos _
  · exact Nat.zero_le _

theorem length_step {m : Mode} {c : Char} {us : List UInt16} {next : Mode}
    (h : m.step c = .adds us next) :
    us.length + next.spare ≤ (codeUnits c.toNat).length + m.spare := by
  have one := codeUnits_pos c.toNat
  cases m with
  | text => exact length_stepText h
  | escape =>
    simp only [Mode.step, stepEscape] at h
    split_ifs at h <;> cases h
    · exact Nat.zero_le _
    · exact Nat.zero_le _
    · exact one
    · exact Nat.zero_le _
    · exact Nat.zero_le _
    · exact length_escapeCode_le c
  | zero =>
    simp only [Mode.step] at h
    split_ifs at h
    exact length_stepText h
  | feed =>
    simp only [Mode.step] at h
    split_ifs at h
    · cases h
      exact Nat.zero_le _
    · exact length_stepText h
  | unicode =>
    simp only [Mode.step] at h
    split_ifs at h
    · cases h
      exact one
    · exact length_stepDigits h
  | digits more value => exact length_stepDigits h
  | braced value =>
    simp only [Mode.step, stepBraced] at h
    split_ifs at h with close
    · cases value with
      | none => exact Step.noConfusion h
      | some n =>
        cases h
        have pair := codeUnits_le_two n
        simp only [Mode.spare]
        omega
    · split at h
      · exact Step.noConfusion h
      · split_ifs at h
        cases h
        simp only [Mode.spare, List.length_nil]
        omega

/-- The first character ends the literal, or something is read behind it. -/
theorem cases_of_readFrom_cons {m : Mode} {c : Char} {cs rest : List Char} {us : List UInt16}
    (h : readFrom m (c :: cs) = some (us, rest)) :
    (m.step c = .ends ∧ us = [] ∧ rest = cs) ∨
      ∃ added next later, m.step c = .adds added next ∧
        readFrom next cs = some (later, rest) ∧ us = added ++ later := by
  rw [readFrom] at h
  split at h
  · exact nomatch h
  · next step =>
    cases h
    exact Or.inl ⟨step, rfl, rfl⟩
  · next added next step =>
    obtain ⟨⟨later, _⟩, read, same⟩ := Option.map_eq_some_iff.mp h
    cases same
    exact Or.inr ⟨added, next, later, step, read, rfl⟩

theorem units_cons (c : Char) (cs : List Char) : units (c :: cs) = codeUnits c.toNat ++ units cs :=
  rfl

theorem length_readFrom {m : Mode} {cs rest : List Char} {us : List UInt16}
    (h : readFrom m cs = some (us, rest)) : us.length < (units cs).length + m.spare := by
  induction cs generalizing m us with
  | nil => exact nomatch h
  | cons c cs ih =>
    have one := codeUnits_pos c.toNat
    rw [units_cons, List.length_append]
    rcases cases_of_readFrom_cons h with ⟨_, rfl, _⟩ | ⟨added, next, later, step, read, rfl⟩
    · rw [List.length_nil]
      omega
    · have taken := length_step step
      have bound := ih read
      rw [List.length_append]
      omega

example : readFrom (.braced none) "1f37a\x7d\"".toList = some ([0xd83c, 0xdf7a], []) := by decide

/-- A character that stands for itself in a literal, and that needs no replacement. -/
def Plain (c : Char) : Prop := c ≠ '"' ∧ c ≠ '\\' ∧ c ≠ '\n' ∧ c ≠ '\r'

instance (c : Char) : Decidable (Plain c) := inferInstanceAs (Decidable (_ ∧ _))

theorem readFrom_plain {cs : List Char} (h : ∀ c ∈ cs, Plain c) (rest : List Char) :
    readFrom .text (cs ++ '"' :: rest) = some (units cs, rest) := by
  induction cs with
  | nil => rfl
  | cons c cs ih =>
    obtain ⟨⟨quote, backslash, feed, return'⟩, later⟩ := List.forall_mem_cons.mp h
    have step : Mode.step .text c = .adds (codeUnits c.toNat) .text := by
      simp [Mode.step, stepText, quote, backslash, feed, return']
    rw [List.cons_append, readFrom, step]
    simp only [ih later, Option.map_some]
    rfl

/-- A backslash costs a code unit that nothing gives back. -/
theorem plain_of_readFrom {cs : List Char} (quoteless : '"' ∉ cs)
    (h : readFrom .text (cs ++ ['"']) = some (units cs, [])) : ∀ c ∈ cs, Plain c := by
  induction cs with
  | nil => exact fun _ hc => nomatch hc
  | cons c cs ih =>
    have quote : c ≠ '"' := fun same => quoteless (same ▸ List.mem_cons_self)
    rw [List.cons_append] at h
    rcases cases_of_readFrom_cons h with ⟨ends, _⟩ | ⟨added, next, later, step, read, whole⟩
    · exact absurd (eq_quote_of_step_ends ends) quote
    rw [Mode.step, stepText, if_neg quote] at step
    rw [units_cons] at whole
    split_ifs at step with backslash broken
    · cases step
      have bound := length_readFrom read
      have ending : units (cs ++ ['"']) = units cs ++ [34] := List.flatMap_append
      have one := codeUnits_pos c.toNat
      rw [← List.nil_append later, ← whole, ending, List.length_append, List.length_append,
        List.length_singleton] at bound
      have spare : Mode.escape.spare = 0 := rfl
      omega
    · cases step
      rw [← List.append_cancel_left whole] at read
      have plain : Plain c :=
        ⟨quote, backslash, fun feed => broken (.inl feed), fun back => broken (.inr back)⟩
      exact List.forall_mem_cons.mpr
        ⟨plain, ih (fun mem => quoteless (List.mem_cons_of_mem c mem)) read⟩

theorem eq_text_of_step_quote {m : Mode} {us : List UInt16} {next : Mode}
    (h : m.step '"' = .adds us next) : next = .text := by
  cases m with
  | text => exact Step.noConfusion h
  | escape =>
    cases h
    rfl
  | zero => exact Step.noConfusion h
  | feed => exact Step.noConfusion h
  | unicode => exact Step.noConfusion h
  | digits => exact Step.noConfusion h
  | braced => exact Step.noConfusion h

/-- Of doubled quotes at least one is not escaped, and ends the literal before its last quote. -/
theorem quoteless_of_readFrom {m : Mode} {cs : List Char} {us : List UInt16}
    (h : readFrom m (Value.doubleQuotes cs ++ ['"']) = some (us, [])) : '"' ∉ cs := by
  induction cs generalizing m us with
  | nil => exact List.not_mem_nil
  | cons c cs ih =>
    by_cases quote : c = '"'
    · subst quote
      have doubled : Value.doubleQuotes ('"' :: cs) ++ ['"'] =
          '"' :: '"' :: (Value.doubleQuotes cs ++ ['"']) := rfl
      rw [doubled] at h
      rcases cases_of_readFrom_cons h with ⟨_, _, ended⟩ | ⟨_, next, later, step, read, _⟩
      · exact nomatch ended
      · have ended : Value.doubleQuotes cs ++ ['"'] = [] := by
          rw [eq_text_of_step_quote step] at read
          exact congrArg Prod.snd (Option.some.inj read)
        exact absurd ended (List.append_ne_nil_of_right_ne_nil _ (List.cons_ne_nil _ _))
    · rw [Value.doubleQuotes, if_neg quote, List.cons_append] at h
      rcases cases_of_readFrom_cons h with ⟨ends, _⟩ | ⟨_, next, later, _, read, _⟩
      · exact absurd (eq_quote_of_step_ends ends) quote
      · exact List.not_mem_cons_of_ne_of_not_mem (Ne.symm quote) (ih read)

theorem doubleQuotes_eq_self {cs : List Char} (h : '"' ∉ cs) : Value.doubleQuotes cs = cs := by
  induction cs with
  | nil => rfl
  | cons c cs ih =>
    have quote : c ≠ '"' := fun same => h (same ▸ List.mem_cons_self)
    rw [Value.doubleQuotes, if_neg quote, ih fun mem => h (List.mem_cons_of_mem c mem)]

theorem readDoubledFrom_doubleQuotes (cs : List Char) :
    readDoubledFrom (Value.doubleQuotes cs ++ ['"']) = some (cs, []) := by
  induction cs with
  | nil => rfl
  | cons c cs ih =>
    rw [Value.doubleQuotes]
    split
    · next quote =>
      subst quote
      simp [readDoubledFrom, ih]
    · next quote => simp [readDoubledFrom, quote, ih]

end Script

open Script

namespace Value

theorem toList_literal_text (s : String) :
    (text s).literal.toList = '"' :: (doubleQuotes s.toList ++ ['"']) :=
  String.toList_ofList

/-- A script reads the literal of a text to its end and as the text exactly if the text has no
quotes, backslashes or line ends. Where doubled quotes stand for one, that holds for every text. -/
theorem readLiteral_literal_iff (s : String) :
    (readLiteral (text s).literal.toList = some (units s.toList, []) ↔
      ∀ c ∈ s.toList, Plain c) ∧
    readDoubled (text s).literal.toList = some (s.toList, []) := by
  rw [toList_literal_text]
  refine ⟨?_, readDoubledFrom_doubleQuotes s.toList⟩
  constructor
  · intro faithful
    rw [readLiteral] at faithful
    have quoteless := quoteless_of_readFrom faithful
    rw [doubleQuotes_eq_self quoteless] at faithful
    exact plain_of_readFrom quoteless faithful
  · intro plain
    have quoteless : '"' ∉ s.toList := fun mem => (plain '"' mem).1 rfl
    rw [doubleQuotes_eq_self quoteless, readLiteral, readFrom_plain plain]

/-- A quote ends the literal too early, a backslash is read as an escape, and a line end is
refused. -/
theorem literals_misread :
    readLiteral (text "a\"b").literal.toList ≠ some (units "a\"b".toList, []) ∧
      readLiteral (text "a\\b").literal.toList ≠ some (units "a\\b".toList, []) ∧
      readLiteral (text "a\nb").literal.toList ≠ some (units "a\nb".toList, []) := by
  decide

end Value

end LoadClients

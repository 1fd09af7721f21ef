import LoadClients.Proofs.Request.Identifiers
import LoadClients.Proofs.Text.Ends
import LoadClients.Proofs.Text.Terminator
import LoadClients.Request.Comment

/-!
The shape of the comment of a method. Between its first and its last line it consists of phrases,
each a few words of its own with a text of the operation behind them. Descriptions are continued
over their lines; all other texts stand as they are. No words make or break an end mark, so that the
comment is closed at its end unless one of its texts closes it before.
-/

namespace LoadClients

open Text

/-- Words of a comment, and the text that is put behind them. -/
inductive Phrase where
  /-- the text stands as it is -/
  | placed (words text : String)
  /-- the lines of the text continue the comment -/
  | told (words text : String)

namespace Phrase

def words : Phrase → String
  | placed words _ => words
  | told words _ => words

def text : Phrase → String
  | placed _ text => text
  | told _ text => text

def written : Phrase → String
  | placed words text => words ++ text
  | told words text => words ++ continued text

/-- The text is on one line, or is told. -/
def Fits : Phrase → Prop
  | placed _ text => Unbroken text.toList
  | told _ _ => True

instance (p : Phrase) : Decidable p.Fits :=
  match p with
  | placed _ text => inferInstanceAs (Decidable (Unbroken text.toList))
  | told _ _ => isTrue trivial

end Phrase

/-- What is said about a parameter: its default and its description, if it has either. -/
def Parameter.phrases (p : Parameter) : List Phrase :=
  match p.schema.defaultValue.map Value.literal, said p.description with
  | some value, some text =>
    [.placed (commentBreak ++ "@param [") p.identifier, .placed "=" value, .told "] " text]
  | some value, none =>
    [.placed (commentBreak ++ "@param [") p.identifier, .placed "=" value, .placed "]" ""]
  | none, some text => [.placed (commentBreak ++ "@param ") p.identifier, .told " " text]
  | none, none => []

def RequestBody.phrases (b : RequestBody) : List Phrase :=
  match said b.description with
  | some text => [.placed (commentBreak ++ "@param ") b.identifier, .told " " text]
  | none => []

/-- What the comment of an operation says about it. -/
def Operation.phrases (o : Operation) : List Phrase :=
  ((said o.summary).map (.told (commentBreak ++ "@summary "))).toList ++
    ((said o.description).map (.told (commentBreak ++ "@description "))).toList ++
    o.argumentParameters.flatMap Parameter.phrases ++
    o.requestBody.toList.flatMap RequestBody.phrases ++
    [.placed (commentBreak ++ "@param [params=undefined] Request parameters.") ""] ++
    ((o.representative.bind fun s => said s.2.description).map
      (.told (commentBreak ++ "@returns "))).toList

/-- The phrases of a comment. The first names the operation. -/
def Endpoint.phrases (e : Endpoint) : List Phrase :=
  .placed (commentBreak ++ e.method.upperName ++ " ") e.resource :: e.operation.phrases

/-- The text of phrases one behind the other. -/
def written (ps : List Phrase) : String := String.join (ps.map Phrase.written)

/-- Paragraphs of a comment, each on a line of its own. -/
def onLines (ps : List String) : String := String.join (ps.map (commentBreak ++ ·))

theorem written_append (ps qs : List Phrase) : written (ps ++ qs) = written ps ++ written qs := by
  unfold written
  rw [List.map_append, String.join_append]

theorem onLines_append (ps qs : List String) : onLines (ps ++ qs) = onLines ps ++ onLines qs := by
  unfold onLines
  rw [List.map_append, String.join_append]

theorem intercalate_commentBreak (p : String) (ps : List String) :
    commentBreak.intercalate (p :: ps) = p ++ onLines ps := by
  induction ps generalizing p with
  | nil => simp [onLines]
  | cons q ps ih =>
    rw [String.intercalate_cons_cons, ih q]
    simp [onLines, String.append_assoc]

theorem onLines_told (words : String) (text : Option String) :
    onLines (text.map (words ++ continued ·)).toList =
      written (text.map (.told (commentBreak ++ words))).toList := by
  cases text with
  | none => rfl
  | some text => simp [onLines, written, Phrase.written, String.append_assoc]

theorem onLines_input (i : Input) : onLines i.paragraph.toList = written i.parameter.phrases := by
  have binding : i.binding = i.parameter.identifier := rfl
  unfold Input.paragraph Parameter.phrases
  rw [binding]
  cases i.parameter.schema.defaultValue.map Value.literal <;>
    cases said i.parameter.description <;>
    simp [onLines, written, Phrase.written, String.append_assoc]

theorem onLines_inputs (is : List Input) :
    onLines (is.filterMap Input.paragraph) =
      written ((is.map Input.parameter).flatMap Parameter.phrases) := by
  induction is with
  | nil => rfl
  | cons i is ih =>
    have head : (i :: is).filterMap Input.paragraph =
        i.paragraph.toList ++ is.filterMap Input.paragraph := by
      rw [List.filterMap_cons]
      cases i.paragraph <;> rfl
    rw [head, onLines_append, onLines_input, ih, List.map_cons, List.flatMap_cons, written_append]

theorem onLines_body (body : Option RequestBody) :
    onLines ((body.map fun b => (⟨b.description, .ofContent b.content⟩ : Body)).bind
      Body.paragraph).toList = written (body.toList.flatMap RequestBody.phrases) := by
  cases body with
  | none => rfl
  | some b =>
    have name : (Payload.ofContent b.content).argumentName = b.identifier := rfl
    rw [Option.map_some, Option.bind_some, Option.toList_some, List.flatMap_singleton,
      Body.paragraph, RequestBody.phrases, name]
    cases said b.description <;> simp [onLines, written, Phrase.written, String.append_assoc]

theorem onLines_fixed (text : String) :
    onLines [text] = written [.placed (commentBreak ++ text) ""] := by
  simp [onLines, written, Phrase.written]

namespace Request

theorem onLines_operation {e : Endpoint} {r : Request} (h : ofEndpoint e = .ok r) :
    ∃ ps, r.paragraphs = ("   * " ++ e.method.upperName ++ " " ++ e.resource) :: ps ∧
      onLines ps = written e.operation.phrases := by
  obtain ⟨_, parts⟩ := ofEndpoint_eq_ok h
  have inputs : r.inputs.map Input.parameter = e.operation.argumentParameters := by
    rw [parts, Operation.argumentParameters, parameters_of_inputs]
  have endpoint : r.endpoint = e := by rw [parts]
  have body : r.body =
      e.operation.requestBody.map fun b => ⟨b.description, .ofContent b.content⟩ := by
    rw [parts]
  unfold paragraphs response Operation.phrases
  rw [endpoint, body]
  simp only [List.cons_append, List.nil_append]
  refine ⟨_, rfl, ?_⟩
  simp only [onLines_append, written_append, onLines_told, onLines_inputs, inputs, onLines_body,
    onLines_fixed]

theorem comment_eq_written {e : Endpoint} {r : Request} (h : ofEndpoint e = .ok r) :
    r.comment = "\n  /**" ++ written e.phrases ++ "\n   */" := by
  obtain ⟨ps, paragraphs, rest⟩ := onLines_operation h
  have opening : "\n  /**\n" ++ "   * " = "\n  /**" ++ commentBreak := by decide
  have first : written e.phrases =
      commentBreak ++ e.method.upperName ++ " " ++ e.resource ++ written e.operation.phrases := by
    simp [Endpoint.phrases, written, Phrase.written]
  rw [comment, paragraphs, intercalate_commentBreak, rest, first]
  simp only [← String.append_assoc, opening]

end Request

/-! What the words of a comment do to the texts between them. -/

theorem toList_continued (text : String) :
    (continued text).toList = commentBreak.toList.intercalate (splitLines text.toList) := by
  have chars : String.toList ∘ String.ofList = id := funext fun _ => String.toList_ofList
  rw [continued, String.toList_intercalate, lines, List.map_map, chars, List.map_id]

theorem divides_commentBreak : Divides commentBreak.toList := by decide

theorem hanging_commentBreak : Hanging "   *".toList commentBreak.toList := by decide

theorem closes_continued {text : String} :
    Closes (continued text).toList ↔ Closes text.toList := by
  rw [toList_continued, closes_intercalate divides_commentBreak, ← closes_iff_exists_line]

theorem hanging_continued (text : String) : Hanging "   *".toList (continued text).toList := by
  rw [toList_continued]
  exact .intercalate (by decide) hanging_commentBreak fun l hl =>
    (unbroken_of_mem_splitLines hl).hanging _

/-- The words keep the texts around them apart, and all their lines but the first are lines of the
comment. -/
def SoundWords (words : String) : Prop :=
  Divides words.toList ∧ Hanging "   *".toList words.toList

instance (words : String) : Decidable (SoundWords words) := inferInstanceAs (Decidable (_ ∧ _))

/-- The words that comments are made with, besides those that name the operation. -/
def commentWords : List String :=
  ["@summary ", "@description ", "@param [", "@param ",
    "@param [params=undefined] Request parameters.", "@returns "].map (commentBreak ++ ·) ++
  ["=", "] ", "]", " "]

theorem soundWords_of_mem {words : String} (h : words ∈ commentWords) : SoundWords words := by
  have all : ∀ words ∈ commentWords, SoundWords words := by decide +kernel
  exact all words h

theorem words_parameter (p : Parameter) : ∀ q ∈ p.phrases, q.words ∈ commentWords := by
  unfold Parameter.phrases
  split <;> simp [Phrase.words, commentWords]

theorem words_body (b : RequestBody) : ∀ q ∈ b.phrases, q.words ∈ commentWords := by
  unfold RequestBody.phrases
  split <;> simp [Phrase.words, commentWords]

theorem words_operation (o : Operation) : ∀ q ∈ o.phrases, q.words ∈ commentWords := by
  have told (text : Option String) {words : String} (h : words ∈ commentWords) :
      ∀ q ∈ (text.map (Phrase.told words)).toList, q.words ∈ commentWords := by
    cases text <;> simp [Phrase.words, h]
  unfold Operation.phrases
  simp only [List.forall_mem_append, List.forall_mem_singleton, List.forall_mem_flatMap]
  refine ⟨⟨⟨⟨⟨told _ ?_, told _ ?_⟩, ?_⟩, ?_⟩, ?_⟩, told _ ?_⟩
  · simp [commentWords]
  · simp [commentWords]
  · exact fun p _ => words_parameter p
  · exact fun b _ => words_body b
  · simp [Phrase.words, commentWords]
  · simp [commentWords]

theorem soundWords_phrases (e : Endpoint) : ∀ p ∈ e.phrases, SoundWords p.words := by
  have first (m : Method) : SoundWords (commentBreak ++ m.upperName ++ " ") := by
    cases m <;> decide
  exact List.forall_mem_cons.mpr
    ⟨first e.method, fun p hp => soundWords_of_mem (words_operation _ p hp)⟩

theorem closes_written {ps : List Phrase} (sound : ∀ p ∈ ps, SoundWords p.words) (a : List Char) :
    Closes (a ++ (written ps).toList) ↔ Closes a ∨ ∃ p ∈ ps, Closes p.text.toList := by
  induction ps generalizing a with
  | nil => simp [written]
  | cons p ps ih =>
    obtain ⟨head, tail⟩ := List.forall_mem_cons.mp sound
    have taken : ∃ text : String, p.written = p.words ++ text ∧
        (Closes text.toList ↔ Closes p.text.toList) := by
      cases p with
      | placed words text => exact ⟨text, rfl, Iff.rfl⟩
      | told words text => exact ⟨continued text, rfl, closes_continued⟩
    obtain ⟨text, whole, marks⟩ := taken
    have chars : (written (p :: ps)).toList =
        p.words.toList ++ (text.toList ++ (written ps).toList) := by
      simp [written, whole]
    rw [chars, closes_append_of_divides head.1, ih tail, marks]
    simp

theorem hanging_written {ps : List Phrase} (sound : ∀ p ∈ ps, SoundWords p.words)
    (fits : ∀ p ∈ ps, p.Fits) : Hanging "   *".toList (written ps).toList := by
  induction ps with
  | nil => exact fun _ hl => nomatch hl
  | cons p ps ih =>
    obtain ⟨soundHead, soundTail⟩ := List.forall_mem_cons.mp sound
    obtain ⟨fitsHead, fitsTail⟩ := List.forall_mem_cons.mp fits
    have nonempty : "   *".toList ≠ [] := by decide
    have whole : (written (p :: ps)).toList = p.written.toList ++ (written ps).toList := by
      simp [written]
    rw [whole]
    refine .append ?_ nonempty (ih soundTail fitsTail)
    cases p with
    | placed words text =>
      rw [Phrase.written, String.toList_append]
      exact soundHead.2.append nonempty (fitsHead.hanging _)
    | told words text =>
      rw [Phrase.written, String.toList_append]
      exact soundHead.2.append nonempty (hanging_continued text)

theorem beginsWith_iff_prefix {s t : String} : BeginsWith s t ↔ t.toList <+: s.toList := by
  constructor
  · rintro ⟨rest, rfl⟩
    exact ⟨rest.toList, String.toList_append.symm⟩
  · rintro ⟨rest, same⟩
    exact ⟨.ofList rest, String.toList_inj.mp (by simp [same])⟩

instance (s t : String) : Decidable (BeginsWith s t) :=
  decidable_of_iff _ beginsWith_iff_prefix.symm

/-- The text ends with the end mark of a comment and has none before. -/
def ClosedAtEnd (s : String) : Prop :=
  EndsWith s "*/" ∧ ∀ front rest, s = front ++ ("*/" ++ rest) → rest = ""

theorem closedAtEnd_iff {s : String} {c : Char} (inert : isInert c) {cs : List Char}
    (chars : s.toList = cs ++ c :: ['*', '/']) : ClosedAtEnd s ↔ ¬ Closes cs := by
  have mark : "*/".toList = ['*', '/'] := by decide
  have closed : EndsWith s "*/" := by
    refine ⟨.ofList (cs ++ [c]), String.toList_inj.mp ?_⟩
    rw [String.toList_append, String.toList_ofList, mark, chars, List.append_assoc,
      List.singleton_append]
  rw [ClosedAtEnd, and_iff_right closed, ← forall_mark_at_end_iff inert, ← chars, ← mark]
  constructor
  · intro only a b same
    have rest := only (.ofList a) (.ofList b) (String.toList_inj.mp (by simp [same]))
    simpa using congrArg String.toList rest
  · intro only front rest same
    have empty := only front.toList rest.toList (by simp [same])
    exact String.toList_inj.mp empty

/-- A block comment, on lines that all continue it. -/
def Block (s : String) : Prop :=
  ∃ ls, lines s = "" :: "  /**" :: ls ∧ ∀ l ∈ ls, BeginsWith l "   *"

theorem block_of_hanging {s : String} {cs : List Char} (h : Hanging "   *".toList ('\n' :: cs))
    (chars : s.toList = "\n  /**".toList ++ '\n' :: cs) : Block s := by
  have feed (cs : List Char) : splitLines ('\n' :: cs) = [] :: splitLines cs :=
    splitLines_unbroken_append unbroken_nil cs
  have first : "\n  /**".toList = '\n' :: "  /**".toList := by decide
  rw [Hanging, feed, List.tail_cons] at h
  refine ⟨(splitLines cs).map String.ofList, ?_, ?_⟩
  · rw [lines, chars, first, List.cons_append, feed, splitLines_unbroken_append (by decide)]
    simp
  · intro l hl
    obtain ⟨line, mem, rfl⟩ := List.mem_map.mp hl
    refine beginsWith_iff_prefix.mpr ?_
    rw [String.toList_ofList (l := line)]
    exact h line mem

/-- The first phrase begins on a new line. -/
theorem exists_written_phrases (e : Endpoint) :
    ∃ cs, (written e.phrases).toList = '\n' :: cs := by
  have front : commentBreak.toList = '\n' :: "   * ".toList := by decide
  refine ⟨"   * ".toList ++ (e.method.upperName ++ " " ++ e.resource ++
    written e.operation.phrases).toList, ?_⟩
  rw [← List.cons_append, ← front]
  simp [written, Endpoint.phrases, Phrase.written]

namespace Request

/-- The comment of a method has its only end mark at its end exactly if none of the texts that it
takes from the operation has one, and its lines are those of a block if every text fits that is not
continued over its lines. -/
theorem comment_closed_iff {e : Endpoint} {r : Request} (h : ofEndpoint e = .ok r) :
    (ClosedAtEnd r.comment ↔ ∀ p ∈ e.phrases, ¬ Closes p.text.toList) ∧
    ((∀ p ∈ e.phrases, p.Fits) → Block r.comment) := by
  have sound := soundWords_phrases e
  rw [comment_eq_written h]
  constructor
  · have chars : ("\n  /**" ++ written e.phrases ++ "\n   */").toList =
        (("\n  /**".toList ++ (written e.phrases).toList) ++ '\n' :: [' ', ' ']) ++
          ' ' :: ['*', '/'] := by
      simp
    rw [closedAtEnd_iff rfl chars, closes_append_cons_iff rfl, closes_written sound]
    have opening : ¬ Closes "\n  /**".toList := by decide
    have ending : ¬ Closes [' ', ' '] := by decide
    simp only [opening, ending, false_or, or_false, not_exists, not_and]
  · intro fits
    have nonempty : "   *".toList ≠ [] := by decide
    have ending : Hanging "   *".toList "\n   */".toList := by decide
    have hanging := (hanging_written sound fits).append nonempty ending
    obtain ⟨cs, phrases⟩ := exists_written_phrases e
    rw [phrases, List.cons_append] at hanging
    refine block_of_hanging hanging ?_
    rw [String.toList_append, String.toList_append, phrases, List.append_assoc, List.cons_append]

/-- An operation with one query parameter, which has a text for its default. -/
def racking (summary description default : String) : Endpoint where
  resource := "/rack"
  method := .post
  operation :=
    { tags := ["rack"], summary := some summary, description := some description
      operationId := none
      parameters := [⟨"size", .query, false, none,
        .primitive (some .string) (some (.text default))⟩]
      requestBody := none
      responses := Table.empty }

/-- A summary with an end mark closes the comment before its end, and a default on two lines breaks
out of it. -/
theorem comment_breaks :
    ∃ r, ofEndpoint (racking "Moves */ kegs" "" "S\nM") = .ok r ∧
      ¬ ClosedAtEnd r.comment ∧ ¬ Block r.comment := by
  have text : (ofEndpoint (racking "Moves */ kegs" "" "S\nM")).map comment =
      .ok ("\n  /**\n   * POST /rack\n   * @summary Moves " ++ ("*/" ++
        (" kegs\n   * @param [size=\"S\nM\"]\n" ++
          "   * @param [params=undefined] Request parameters.\n   */"))) := by
    decide +kernel
  obtain ⟨r, ok, comment⟩ := map_eq_ok_iff.mp text
  refine ⟨r, ok, ?_, ?_⟩
  · rintro ⟨_, only⟩
    exact absurd (only _ _ comment) (by decide)
  · rintro ⟨ls, split, block⟩
    have broken : "M\"]" ∈ ls := by
      have mem : "M\"]" ∈ (lines r.comment).drop 2 := by
        rw [comment]
        decide +kernel
      rwa [split] at mem
    exact absurd (block _ broken) (by decide)

theorem comment_closed_iff_racking :
    ∃ r, ofEndpoint (racking "Moves kegs" "All * kegs,\r\nand / or barrels" "S") = .ok r ∧
      r.comment = "\n  /**\n   * POST /rack\n   * @summary Moves kegs\n" ++
        "   * @description All * kegs,\n   * and / or barrels\n   * @param [size=\"S\"]\n" ++
        "   * @param [params=undefined] Request parameters.\n   */" ∧
      ClosedAtEnd r.comment ∧ Block r.comment := by
  have text : (ofEndpoint (racking "Moves kegs" "All * kegs,\r\nand / or barrels" "S")).map
      comment = .ok ("\n  /**\n   * POST /rack\n   * @summary Moves kegs\n" ++
        "   * @description All * kegs,\n   * and / or barrels\n   * @param [size=\"S\"]\n" ++
        "   * @param [params=undefined] Request parameters.\n   */") := by
    decide +kernel
  obtain ⟨r, ok, whole⟩ := map_eq_ok_iff.mp text
  obtain ⟨closed, block⟩ := comment_closed_iff ok
  refine ⟨r, ok, whole, closed.mpr ?_, block ?_⟩
  · decide +kernel
  · decide +kernel

end Request

end LoadClients

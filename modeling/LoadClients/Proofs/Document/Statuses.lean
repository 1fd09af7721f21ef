import LoadClients.Document.Reader
import LoadClients.Proofs.Source.Reading
import LoadClients.Proofs.Table
import LoadClients.Yaml.Tree
import Mathlib.Data.List.Find

/-!
Responses under bare and under quoted status codes. Entries are collected under their keys as they
are written, and only then under the statuses. So a status that is written in both ways has the last
response of that spelling which came up later, even if the other one comes again behind it. With all
codes quoted, each status has its last response.
-/

namespace LoadClients

/-- The key with quotes around it. -/
def StatusKey.quoted (k : StatusKey) : StatusKey := .text k.status

/-- The entries with all their keys quoted. -/
def quotedKeys (es : List (StatusKey × Response)) : List (StatusKey × Response) :=
  es.map fun e => (e.1.quoted, e.2)

/-- The last response that is declared for a status. -/
def lastResponse (es : List (StatusKey × Response)) (status : String) : Option Response :=
  (es.reverse.find? fun e => e.1.status = status).map Prod.snd

/-- Of the keys that stand for a status the one that comes up last. -/
def newestKey (es : List (StatusKey × Response)) (status : String) : Option StatusKey :=
  (es.map Prod.fst).eraseDups.reverse.find? fun k => k.status = status

/-- The last response under the newest key for a status. -/
def newestResponse (es : List (StatusKey × Response)) (status : String) : Option Response :=
  (newestKey es status).bind fun k => es.reverse.lookup k

theorem keys_responsesOf (es : List (StatusKey × Response)) :
    (responsesOf es).keys = (es.map fun e => e.1.status).eraseDups := by
  rw [responsesOf, Table.keys_ofList_map, Table.keys_ofList, eraseDups_map_eraseDups, List.map_map]
  rfl

theorem find?_responsesOf (es : List (StatusKey × Response)) (status : String) :
    (responsesOf es).find? status = newestResponse es status := by
  rw [responsesOf, Table.find?_ofList_map, Table.keys_ofList]
  exact congrArg (Option.bind (newestKey es status)) (funext (Table.find?_ofList es))

theorem keys_quotedKeys (es : List (StatusKey × Response)) :
    (responsesOf (quotedKeys es)).keys = (responsesOf es).keys := by
  rw [keys_responsesOf, keys_responsesOf, quotedKeys, List.map_map]
  rfl

theorem status_of_newestKey {es : List (StatusKey × Response)} {status : String} {k : StatusKey}
    (h : newestKey es status = some k) : k.status = status ∧ ∃ e ∈ es, e.1 = k := by
  unfold newestKey at h
  refine ⟨by simpa using List.find?_some h, ?_⟩
  have used := List.mem_reverse.mp (List.mem_of_find?_eq_some h)
  exact List.mem_map.mp (List.mem_eraseDups.mp used)

theorem status_ne_of_newestKey {es : List (StatusKey × Response)} {status : String}
    (h : newestKey es status = none) : ∀ e ∈ es, e.1.status ≠ status := by
  intro e he
  have listed : e.1 ∈ (es.map Prod.fst).eraseDups.reverse := by
    rw [List.mem_reverse, List.mem_eraseDups]
    exact List.mem_map_of_mem he
  simpa using List.find?_eq_none.mp h e.1 listed

/-- Where all entries for a status have the same key, the newest response is the last. -/
theorem newestResponse_eq_lastResponse {es : List (StatusKey × Response)} {status : String}
    (h : ∀ e ∈ es, ∀ e' ∈ es, e.1.status = status → e'.1.status = status → e.1 = e'.1) :
    newestResponse es status = lastResponse es status := by
  rw [newestResponse, lastResponse]
  cases newest : newestKey es status with
  | none =>
    have unused : es.reverse.find? (fun e => e.1.status = status) = none := by
      rw [List.find?_eq_none]
      intro e he
      simpa using status_ne_of_newestKey newest e (List.mem_reverse.mp he)
    rw [unused]
    rfl
  | some k =>
    obtain ⟨kind, e, he, rfl⟩ := status_of_newestKey newest
    have same : ∀ e' ∈ es.reverse, decide (e'.1 = e.1) = decide (e'.1.status = status) := by
      intro e' he'
      rw [decide_eq_decide]
      constructor
      · intro key
        rw [key, kind]
      · intro kind'
        exact h e' (List.mem_reverse.mp he') e he kind' kind
    have found := lookup_map_key id es.reverse e.1
    rw [← List.find?_congr same, Option.bind_some]
    simpa using found

theorem newestResponse_quotedKeys (es : List (StatusKey × Response)) (status : String) :
    newestResponse (quotedKeys es) status = lastResponse es status := by
  have quoted : ∀ e ∈ quotedKeys es, e.1 = .text e.1.status := by
    intro e he
    obtain ⟨_, _, rfl⟩ := List.mem_map.mp he
    rfl
  have one : ∀ e ∈ quotedKeys es, ∀ e' ∈ quotedKeys es,
      e.1.status = status → e'.1.status = status → e.1 = e'.1 := by
    intro e he e' he' kind kind'
    rw [quoted e he, quoted e' he', kind, kind']
  rw [newestResponse_eq_lastResponse one, lastResponse, lastResponse, quotedKeys,
    ← List.map_reverse, List.find?_map, Option.map_map]
  rfl

/-- Quotes make no difference exactly where no status comes again under an older key with another
response. -/
theorem responsesOf_quotedKeys_iff (es : List (StatusKey × Response)) :
    responsesOf es = responsesOf (quotedKeys es) ↔
      ∀ status, newestResponse es status = lastResponse es status := by
  constructor
  · intro same status
    rw [← find?_responsesOf, same, find?_responsesOf, newestResponse_quotedKeys]
  · intro h
    refine Table.ext_find? (keys_quotedKeys es).symm ?_
    intro status
    rw [find?_responsesOf, find?_responsesOf, newestResponse_quotedKeys, h]

namespace Source

/-- The key as it is read, with quotes around a bare code. -/
def quoteKey (src : Source) (k : Node) : Node :=
  match src.resolve k with
  | .scalar s =>
    match s.datum with
    | .integer n => if n < 0 then k else .scalar (Datum.text (toString n.toNat)).bare
    | _ => k
  | _ => k

/-- The entries with quotes around all bare codes. -/
def quoteCodes (src : Source) (es : List (Node × Node)) : List (Node × Node) :=
  es.map fun e => (src.quoteKey e.1, e.2)

variable {src : Source} {depth : Nat}

def readStatusKey (src : Source) (depth : Nat) (k : Node) : Reading StatusKey := do
  let content ← Reading.below (keyStep (src.resolve k)) (src.readContent depth k)
  match statusKey? content with
  | none => Reading.below (keyStep (src.resolve k)) (.fail (.noVariant "StatusKey"))
  | some key => .ok key

theorem readStatusEntries_cons (k v : Node) (es : List (Node × Node)) :
    readStatusEntries src depth ((k, v) :: es) = (do
      let key ← src.readStatusKey depth k
      let r ← Reading.below (keyStep (src.resolve k)) (readResponse src depth v)
      let rs ← readStatusEntries src depth es
      pure ((key, r) :: rs)) := by
  rw [readStatusEntries, readStatusKey, bind_assoc]
  congr
  funext content
  cases statusKey? content with
  | none => rfl
  | some key => rfl

theorem readStatusKey_of_content {k content : Node} {key : StatusKey}
    (h : src.readContent depth k = .ok content) (known : statusKey? content = some key) :
    src.readStatusKey depth k = .ok key := by
  rw [readStatusKey, h]
  change (match statusKey? content with
    | none => _
    | some key => Except.ok key) = _
  rw [known]

theorem readStatusKey_of_integer {k : Node} {s : Scalar} {n : Int}
    (h : src.resolve k = .scalar s) (datum : s.datum = .integer n) (natural : ¬ n < 0) :
    src.readStatusKey depth k = .ok (.code n.toNat) := by
  have content : src.readContent depth k = .ok (.scalar (Datum.integer n).bare) := by
    unfold readContent
    simp only [h, datum]
  exact readStatusKey_of_content content (if_neg natural)

theorem readStatusKey_of_text {k : Node} {s : Scalar} {t : String}
    (h : src.resolve k = .scalar s) (datum : s.datum = .text t) :
    src.readStatusKey depth k = .ok (.text t) := by
  have content : src.readContent depth k = .ok (.scalar (Datum.text t).bare) := by
    unfold readContent
    simp only [h, datum]
  exact readStatusKey_of_content content rfl

/-- A scalar is the content of a scalar alone. -/
theorem resolve_of_readContent {k : Node} {c : Scalar}
    (h : src.readContent depth k = .ok (.scalar c)) :
    ∃ s, src.resolve k = .scalar s ∧ c = s.datum.bare := by
  unfold readContent at h
  split at h
  · next s found =>
    refine ⟨s, found, ?_⟩
    split at h
    · next datum =>
      rw [mismatch, datum] at h
      cases h
    · next datum =>
      rw [mismatch, datum] at h
      cases h
    · cases h
      rfl
  · split at h
    · unfold tooDeep at h
      split at h <;> cases h
    · obtain ⟨_, _, h⟩ := bind_eq_ok_iff.mp h
      cases closing_eq_ok h
  · split at h
    · unfold tooDeep at h
      split at h <;> cases h
    · obtain ⟨_, _, h⟩ := bind_eq_ok_iff.mp h
      cases closing_eq_ok h
  all_goals cases h

/-- A key that is read is a text, or a bare code. -/
theorem text_or_integer_of_readStatusKey {k : Node} {key : StatusKey}
    (h : src.readStatusKey depth k = .ok key) :
    (∃ t, key = .text t) ∨
      ∃ s n, src.resolve k = .scalar s ∧ s.datum = .integer n ∧ ¬ n < 0 := by
  obtain ⟨content, read, h⟩ := bind_eq_ok_iff.mp h
  split at h
  · cases h
  · next known =>
    cases h
    unfold statusKey? at known
    split at known
    · next c =>
      obtain ⟨s, found, rfl⟩ := resolve_of_readContent (Reading.below_eq_ok_iff.mp read)
      split at known
      · next n datum =>
        split at known
        · cases known
        · next natural => exact Or.inr ⟨s, n, found, datum, natural⟩
      · next t datum =>
        cases known
        exact Or.inl ⟨t, rfl⟩
      · cases known
    · cases known

/-- A key with quotes is read as the key without them, with quotes. -/
theorem readStatusKey_quoteKey (src : Source) (depth : Nat) (k : Node) :
    src.readStatusKey depth (src.quoteKey k) = (src.readStatusKey depth k).map StatusKey.quoted ∧
    keyStep (src.resolve (src.quoteKey k)) = keyStep (src.resolve k) := by
  by_cases code : ∃ s n, src.resolve k = .scalar s ∧ s.datum = .integer n ∧ ¬ n < 0
  · obtain ⟨s, n, found, datum, natural⟩ := code
    have quoted : src.quoteKey k = .scalar (Datum.text (toString n.toNat)).bare := by
      rw [quoteKey, found]
      simp only [datum, if_neg natural]
    rw [quoted, readStatusKey_of_integer found datum natural]
    constructor
    · exact readStatusKey_of_text rfl rfl
    · obtain ⟨m, rfl⟩ := Int.eq_ofNat_of_zero_le (Int.not_lt.mp natural)
      rw [found, keyStep]
      simp only [datum]
      rfl
  · have quoted : src.quoteKey k = k := by
      unfold quoteKey
      split
      · next s found =>
        split
        · next n datum =>
          by_cases negative : n < 0
          · exact if_pos negative
          · exact absurd ⟨s, n, found, datum, negative⟩ code
        · rfl
      · rfl
    rw [quoted]
    refine ⟨?_, rfl⟩
    cases read : src.readStatusKey depth k with
    | error f => rfl
    | ok key =>
      obtain ⟨t, rfl⟩ := (text_or_integer_of_readStatusKey read).resolve_right code
      rfl

theorem readStatusEntries_quoteCodes (es : List (Node × Node)) :
    readStatusEntries src depth (src.quoteCodes es) =
      (readStatusEntries src depth es).map quotedKeys := by
  induction es with
  | nil => rfl
  | cons e es ih =>
    obtain ⟨key, step⟩ := readStatusKey_quoteKey src depth e.1
    have first : src.quoteCodes (e :: es) = (src.quoteKey e.1, e.2) :: src.quoteCodes es := rfl
    rw [first, readStatusEntries_cons, readStatusEntries_cons, key, step, ih]
    cases src.readStatusKey depth e.1 with
    | error f => rfl
    | ok key =>
      cases Reading.below (keyStep (src.resolve e.1)) (readResponse src depth e.2) with
      | error f => rfl
      | ok r => cases readStatusEntries src depth es <;> rfl

theorem readResponses_eq {n : Node} {es : List (Node × Node)}
    (map : src.entries depth "a map" n = .ok (es, true)) :
    readResponses src depth n = (readStatusEntries src (depth - 1) es).map responsesOf := by
  rw [readResponses, map]
  change readStatusEntries src (depth - 1) es >>= (fun rs => closing true (responsesOf rs)) = _
  cases readStatusEntries src (depth - 1) es <;> rfl

/-- Responses are read alike with bare codes and with quotes around them: with the same fault, or
the same statuses in the same order. With quotes a status has its last response. Without them it has
the last one under the newest of its keys, which is another where an older key comes again. -/
theorem readResponses_quoteCodes {n n' : Node} {es : List (Node × Node)}
    (map : src.entries depth "a map" n = .ok (es, true))
    (map' : src.entries depth "a map" n' = .ok (src.quoteCodes es, true)) :
    (∀ f, readResponses src depth n = .error f ↔ readResponses src depth n' = .error f) ∧
    ∀ t, readResponses src depth n = .ok t → ∃ rs t',
      readStatusEntries src (depth - 1) es = .ok rs ∧ readResponses src depth n' = .ok t' ∧
      t.keys = (rs.map fun e => e.1.status).eraseDups ∧ t'.keys = t.keys ∧
      (∀ status, t.find? status = newestResponse rs status) ∧
      (∀ status, t'.find? status = lastResponse rs status) ∧
      (t = t' ↔ ∀ status, newestResponse rs status = lastResponse rs status) ∧
      ((∀ e ∈ rs, ∀ e' ∈ rs, e.1.status = e'.1.status → e.1 = e'.1) → t = t') := by
  rw [readResponses_eq map, readResponses_eq map', readStatusEntries_quoteCodes]
  cases readStatusEntries src (depth - 1) es with
  | error f => exact ⟨fun _ => Iff.rfl, fun _ h => nomatch h⟩
  | ok rs =>
    refine ⟨fun _ => ⟨fun h => (nomatch h), fun h => (nomatch h)⟩, ?_⟩
    rintro _ ⟨⟩
    refine ⟨rs, responsesOf (quotedKeys rs), rfl, rfl, keys_responsesOf rs, keys_quotedKeys rs,
      find?_responsesOf rs, ?_, responsesOf_quotedKeys_iff rs, ?_⟩
    · intro status
      rw [find?_responsesOf, newestResponse_quotedKeys]
    · intro one
      rw [responsesOf_quotedKeys_iff]
      intro status
      apply newestResponse_eq_lastResponse
      intro e he e' he' kind kind'
      exact one e he e' he' (kind.trans kind'.symm)

/-- A source for the responses of a tap. The status for beer comes bare, in quotes, and bare. -/
def pourings : Source × List (Node × Node) :=
  let text (s : String) : Node := .scalar (Datum.text s).bare
  let code (n : Int) : Node := .scalar (Datum.integer n).bare
  let described (s : String) : Node := .map [(text "description", text s)] true
  let es := [(code 200, described "Ale"), (code 404, described "Dry"),
    (text "200", described "Stout"), (code 200, described "Lager")]
  (⟨Yaml.format, .map es true, []⟩, es)

/-- What the last entry for beer says is lost. -/
theorem quotes_change_pouring :
    (readResponses pourings.1 9 (.map pourings.2 true)).map
        (fun t => t.entries.map fun e => (e.1, e.2.description)) =
      .ok [("200", some "Stout"), ("404", some "Dry")] ∧
    (readResponses pourings.1 9 (.map (pourings.1.quoteCodes pourings.2) true)).map
        (fun t => t.entries.map fun e => (e.1, e.2.description)) =
      .ok [("200", some "Lager"), ("404", some "Dry")] ∧
    readResponses pourings.1 9 (.map pourings.2 true) ≠
      readResponses pourings.1 9 (.map (pourings.1.quoteCodes pourings.2) true) := by
  have bare : (readResponses pourings.1 9 (.map pourings.2 true)).map
      (fun t => t.entries.map fun e => (e.1, e.2.description)) =
      .ok [("200", some "Stout"), ("404", some "Dry")] := rfl
  have quoted : (readResponses pourings.1 9 (.map (pourings.1.quoteCodes pourings.2) true)).map
      (fun t => t.entries.map fun e => (e.1, e.2.description)) =
      .ok [("200", some "Lager"), ("404", some "Dry")] := rfl
  refine ⟨bare, quoted, ?_⟩
  intro same
  rw [same, quoted] at bare
  exact absurd bare (by decide)

/-- With quotes stout is behind lager, without them the other way round. -/
theorem readResponses_quoteCodes_pourings :
    pourings.1.entries 9 "a map" (.map pourings.2 true) = .ok (pourings.2, true) ∧
    pourings.1.entries 9 "a map" (.map (pourings.1.quoteCodes pourings.2) true) =
      .ok (pourings.1.quoteCodes pourings.2, true) ∧
    ∃ t t', readResponses pourings.1 9 (.map pourings.2 true) = .ok t ∧
      readResponses pourings.1 9 (.map (pourings.1.quoteCodes pourings.2) true) = .ok t' ∧
      t'.keys = t.keys ∧ t.keys = ["200", "404"] ∧
      t.find? "200" = some ⟨some "Stout", none⟩ ∧ t'.find? "200" = some ⟨some "Lager", none⟩ := by
  have map : pourings.1.entries 9 "a map" (.map pourings.2 true) = .ok (pourings.2, true) := rfl
  have map' : pourings.1.entries 9 "a map" (.map (pourings.1.quoteCodes pourings.2) true) =
      .ok (pourings.1.quoteCodes pourings.2, true) := rfl
  have entries : readStatusEntries pourings.1 8 pourings.2 =
      .ok [(.code 200, ⟨some "Ale", none⟩), (.code 404, ⟨some "Dry", none⟩),
        (.text "200", ⟨some "Stout", none⟩), (.code 200, ⟨some "Lager", none⟩)] := rfl
  obtain ⟨t, read⟩ : ∃ t, readResponses pourings.1 9 (.map pourings.2 true) = .ok t := by
    decide +kernel
  obtain ⟨rs, t', statuses, read', keys, keys', newest, last, _⟩ :=
    (readResponses_quoteCodes map map').2 t read
  cases entries.symm.trans statuses
  exact ⟨map, map', t, t', read, read', keys', keys.trans (by decide +kernel),
    (newest "200").trans rfl, (last "200").trans rfl⟩

end Source

end LoadClients

/-!
Path templates: segments after slashes, made of literal text and of parameters in braces. A name
between braces may hold slashes. A template is written back exactly as it was read.
-/

namespace LoadClients

inductive Fragment where
  | literal (text : String)
  | param (name : String)
deriving DecidableEq, Repr

def Fragment.text : Fragment → String
  | literal t => t
  | param n => "\x7b" ++ n ++ "\x7d"

structure Segment where
  fragments : List Fragment
deriving DecidableEq, Repr

namespace Segment

/-- The segment without its slash. -/
def text (s : Segment) : String := String.join (s.fragments.map Fragment.text)

def isTemplated (s : Segment) : Bool :=
  match s.fragments with
  | .param _ :: _ => true
  | _ => false

end Segment

structure Template where
  segments : List Segment
deriving DecidableEq, Repr

/-- Where a text stops being a template: a byte offset, and the bytes of the character there. -/
structure BadTemplate where
  offset : Nat
  length : Nat
deriving DecidableEq, Repr

def BadTemplate.message : String := "invalid URL path template"

namespace Template

def text (t : Template) : String := String.join (t.segments.map fun s => "/" ++ s.text)

def isBrace (c : Char) : Bool := c == '\x7b' || c == '\x7d'

/-- The character cannot be part of literal text. -/
def endsLiteral (c : Char) : Bool := c == '/' || isBrace c

def takeFragment : List Char → Option (Fragment × List Char)
  | [] => none
  | c :: cs =>
    if c = '\x7b' then
      match cs.takeWhile (!isBrace ·), cs.dropWhile (!isBrace ·) with
      | n :: ns, d :: rest =>
        if d = '\x7d' then some (.param (String.ofList (n :: ns)), rest) else none
      | _, _ => none
    else if endsLiteral c then none
    else
      some (.literal (String.ofList (c :: cs.takeWhile (!endsLiteral ·))),
        cs.dropWhile (!endsLiteral ·))

theorem length_dropWhile_le {α : Type} (p : α → Bool) (l : List α) :
    (l.dropWhile p).length ≤ l.length :=
  (List.dropWhile_sublist p).length_le

theorem length_takeFragment {cs rest : List Char} {f : Fragment}
    (h : takeFragment cs = some (f, rest)) : rest.length < cs.length := by
  match cs with
  | [] => simp [takeFragment] at h
  | c :: cs =>
    simp only [takeFragment] at h
    split at h
    · split at h
      · next n ns d r _ hd =>
        split at h
        · have := length_dropWhile_le (!isBrace ·) cs
          simp only [hd, List.length_cons] at this
          simp only [Option.some.injEq, Prod.mk.injEq] at h
          simp only [← h.2, List.length_cons]
          omega
        · simp at h
      · simp at h
    · split at h
      · simp at h
      · have := length_dropWhile_le (!endsLiteral ·) cs
        simp only [Option.some.injEq, Prod.mk.injEq] at h
        simp only [← h.2, List.length_cons]
        omega

/-- The fragments at the front of a text, and what follows them. -/
def takeFragments (cs : List Char) : List Fragment × List Char :=
  match h : takeFragment cs with
  | none => ([], cs)
  | some (f, rest) =>
    have := length_takeFragment h
    let r := takeFragments rest
    (f :: r.1, r.2)
termination_by cs.length

theorem length_takeFragments (cs : List Char) : (takeFragments cs).2.length ≤ cs.length := by
  fun_induction takeFragments cs with
  | case1 => simp
  | case2 cs f rest h _ _ ih =>
    exact Nat.le_of_lt (Nat.lt_of_le_of_lt ih (length_takeFragment h))

def takeSegments : List Char → List Segment × List Char
  | [] => ([], [])
  | c :: cs =>
    if c = '/' then
      have := length_takeFragments cs
      let s := takeFragments cs
      let r := takeSegments s.2
      (⟨s.1⟩ :: r.1, r.2)
    else ([], c :: cs)
termination_by cs => cs.length

def byteLength : List Char → Nat
  | [] => 0
  | c :: cs => c.utf8Size + byteLength cs

/-- The template that a text writes; else where its grammar stops. -/
def parse (s : String) : Except BadTemplate Template :=
  match takeSegments s.toList with
  | (g :: gs, []) => .ok ⟨g :: gs⟩
  | (_, rest) =>
    .error ⟨byteLength s.toList - byteLength rest, (rest.head?.map Char.utf8Size).getD 0⟩

end Template

end LoadClients

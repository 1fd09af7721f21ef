import LoadClients.Table

/-!
Names for the methods of one client. Two methods collide when their whole call texts agree, name and
arguments; the later one then has a number added to its name.
-/

namespace LoadClients

def callText (name args : String) : String := name ++ "(" ++ args ++ ")"

def numbered (name : String) (n : Nat) : String := name ++ toString n

/-- The call texts given out so far, each with the last number that was tried for it. -/
structure CallSpace where
  counts : Table String Nat

namespace CallSpace

def empty : CallSpace := ⟨Table.empty⟩

def taken (s : CallSpace) (call : String) : Bool := (s.counts.find? call).isSome

/-- The first number from `n` on whose call is not taken, among `fuel` candidates or the one after
them. -/
def freeNumber (s : CallSpace) (name args : String) : Nat → Nat → Nat
  | 0, n => n
  | fuel + 1, n =>
    if s.taken (callText (numbered name n) args) then freeNumber s name args fuel (n + 1) else n

/-- A name for a call that no earlier call has. The search for a number goes on where the last one
for the same call ended; it cannot pass over more calls than there are. -/
def assign (s : CallSpace) (name args : String) : String × CallSpace :=
  let call := callText name args
  match s.counts.find? call with
  | none => (name, ⟨s.counts.put call 1⟩)
  | some count =>
    let n := s.freeNumber name args s.counts.size (count + 1)
    (numbered name n, ⟨(s.counts.put (callText (numbered name n) args) 1).put call n⟩)

def assignAll (s : CallSpace) : List (String × String) → List String
  | [] => []
  | c :: cs => let r := s.assign c.1 c.2; r.1 :: r.2.assignAll cs

end CallSpace

end LoadClients

/-! The request methods that a path item can declare. -/

namespace LoadClients

inductive Method where
  | get | put | post | delete | options | head | patch | trace
deriving DecidableEq, Repr

namespace Method

def all : List Method := [get, put, post, delete, options, head, patch, trace]

/-- The name as a path item writes it. -/
def name : Method → String
  | get => "get"
  | put => "put"
  | post => "post"
  | delete => "delete"
  | options => "options"
  | head => "head"
  | patch => "patch"
  | trace => "trace"

def upperName : Method → String
  | get => "GET"
  | put => "PUT"
  | post => "POST"
  | delete => "DELETE"
  | options => "OPTIONS"
  | head => "HEAD"
  | patch => "PATCH"
  | trace => "TRACE"

/-- The method of that name, in lower case. -/
def ofName? (s : String) : Option Method := all.find? (·.name == s)

def unknownMessage : String := "unknown HTTP method"

/-- The request function of the load generator takes a body. -/
def expectsBody : Method → Bool
  | delete | patch | post | put => true
  | get | options | head | trace => false

/-- The request function of the load generator. -/
def function : Method → String
  | get => "http.get"
  | put => "http.put"
  | post => "http.post"
  | delete => "http.del"
  | options => "http.options"
  | head => "http.head"
  | patch => "http.patch"
  | trace => "http.trace"

theorem ofName?_eq_some_iff {s : String} {m : Method} : ofName? s = some m ↔ m.name = s := by
  constructor
  · intro h
    simpa using List.find?_some h
  · rintro rfl
    cases m <;> decide

end Method

end LoadClients

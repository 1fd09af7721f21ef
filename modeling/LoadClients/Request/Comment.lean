import LoadClients.Request
import LoadClients.Text.Lines
import LoadClients.Value.Text

/-! The documentation comment of a client method. -/

namespace LoadClients

/-- A text that says something. -/
def said (text : Option String) : Option String := text.filter (· != "")

def commentBreak : String := "\n   * "

/-- A text whose lines all continue the comment. -/
def continued (text : String) : String := commentBreak.intercalate (Text.lines text)

/-- What the comment says about a parameter: its default and its description. -/
def Input.paragraph (i : Input) : Option String :=
  match i.parameter.schema.defaultValue.map Value.literal, said i.parameter.description with
  | some value, some text =>
    some ("@param [" ++ i.binding ++ "=" ++ value ++ "] " ++ continued text)
  | some value, none => some ("@param [" ++ i.binding ++ "=" ++ value ++ "]")
  | none, some text => some ("@param " ++ i.binding ++ " " ++ continued text)
  | none, none => none

def Body.paragraph (b : Body) : Option String :=
  (said b.description).map fun text => "@param " ++ b.payload.argumentName ++ " " ++ continued text

namespace Request

def paragraphs (r : Request) : List String :=
  let o := r.endpoint.operation
  ["   * " ++ r.endpoint.method.upperName ++ " " ++ r.endpoint.resource] ++
    ((said o.summary).map ("@summary " ++ continued ·)).toList ++
    ((said o.description).map ("@description " ++ continued ·)).toList ++
    r.inputs.filterMap Input.paragraph ++
    (r.body.bind Body.paragraph).toList ++
    ["@param [params=undefined] Request parameters."] ++
    ((r.response.bind fun s => said s.2.description).map ("@returns " ++ continued ·)).toList

def comment (r : Request) : String :=
  "\n  /**\n" ++ commentBreak.intercalate r.paragraphs ++ "\n   */"

end Request

end LoadClients

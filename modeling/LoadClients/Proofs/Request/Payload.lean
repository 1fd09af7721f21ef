import LoadClients.Request

/-!
The media type that a body is sent as: the first of the known ones, whatever other types its content
has.
-/

namespace LoadClients

/-- The known media type that a body is sent as. -/
def Content.sentType? (c : Content) : Option String :=
  [Payload.jsonType, Payload.formType, Payload.octetsType].find? fun type => (c.find? type).isSome

/-- The content without the media types that it is not sent as. -/
def Content.sent (c : Content) : Content := c.filter fun type => c.sentType? = some type

namespace Payload

theorem types_distinct :
    jsonType ≠ formType ∧ jsonType ≠ octetsType ∧ formType ≠ octetsType := by decide

theorem mediaType_ofContent (c : Content) : (ofContent c).mediaType = c.sentType? := by
  unfold ofContent Content.sentType?
  cases json : c.find? jsonType with
  | some schema => simp [json, mediaType]
  | none =>
    cases form : c.find? formType with
    | some schema => simp [json, form, mediaType]
    | none => cases octets : c.find? octetsType <;> simp [json, form, octets, mediaType]

theorem ofContent_sent (c : Content) : ofContent c.sent = ofContent c := by
  obtain ⟨jf, jo, fo⟩ := types_distinct
  unfold ofContent Content.sent
  simp only [Table.find?_filter, Content.sentType?]
  cases json : c.find? jsonType with
  | some schema => simp [json]
  | none =>
    cases form : c.find? formType with
    | some schema => simp [json, form]
    | none => cases octets : c.find? octetsType <;> simp [json, form, octets]

end Payload

end LoadClients

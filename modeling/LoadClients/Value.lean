import LoadClients.Decimal.Binary64

/-! Values that a document holds: defaults and the members of enumerations. -/

namespace LoadClients

inductive Number where
  | integer (n : Int)
  | float (x : Binary64)
deriving DecidableEq

inductive Value where
  | null
  | boolean (b : Bool)
  | number (n : Number)
  | text (s : String)
  | list (items : List Value)
  | record (fields : List (String × Value))

end LoadClients

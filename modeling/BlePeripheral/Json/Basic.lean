/-! JSON values in the order of their text. Members keep their order and repetitions, and a
text that stops being JSON somewhere is still a value up to there: the containers that are
open at that place end in a fault, so a reader that goes in order meets it last. -/

namespace BlePeripheral

inductive Json where
  | null
  | bool (b : Bool)
  | integer (n : Int)
  /-- A number with a fraction or an exponent, or a negative zero. -/
  | number
  /-- Without a text when an escape names half of a surrogate pair. -/
  | string (text : Option String)
  | array (items : List Json)
  | object (members : List (Option String × Json))
  | fault

namespace Json

def text (s : String) : Json := .string (some s)

def nat (n : Nat) : Json := .integer n

def fields (members : List (String × Json)) : Json :=
  .object (members.map fun (key, value) => (some key, value))

end Json

end BlePeripheral

import BlePeripheral.Address.Basic
import BlePeripheral.LinkError

/-! Address text. An address is written as six two-digit groups with a colon between; six
groups of any digits are read, so long as the value of each fits a byte. -/

namespace BlePeripheral.DeviceAddress

def text (a : DeviceAddress) : String :=
  ":".intercalate (a.toAir.reverse.map fun b => String.ofList (Hex.pair b))

def groups : List Char → List (List Char)
  | [] => [[]]
  | c :: rest =>
    if c = ':' then [] :: groups rest
    else match groups rest with
      | [] => [[c]]
      | part :: parts => (c :: part) :: parts

/-- The byte that one group stands for: digits, which a single plus sign may lead. -/
def groupByte? (part : List Char) : Option UInt8 := do
  let digits := match part with
    | '+' :: rest => rest
    | _ => part
  let n ← Hex.number? digits
  if n ≤ 255 then some (UInt8.ofNat n) else none

def ofText? (text : String) : Option DeviceAddress := do
  let bytes ← (groups text.toList).mapM groupByte?
  if bytes.length = airSize then some (ofAir bytes.reverse) else none

/-- A text that is not an address is reported as it was given. -/
def ofText (text : String) : Except LinkError DeviceAddress :=
  match ofText? text with
  | some address => .ok address
  | none => .error (.invalidAddress text)

def record (a : DeviceAddress) : String := "DeviceAddress(" ++ a.text ++ ")"

end BlePeripheral.DeviceAddress

/-! The three phases of a link. -/

namespace BlePeripheral

inductive LinkPhase where
  | advertising
  | connectRequest
  | connected
deriving DecidableEq, Repr

def LinkPhase.name : LinkPhase → String
  | advertising => "ADV"
  | connectRequest => "CONNECT_REQUEST"
  | connected => "CONNECTED"

end BlePeripheral

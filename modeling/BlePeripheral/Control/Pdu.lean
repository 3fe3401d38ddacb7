import BlePeripheral.Bytes
import BlePeripheral.Control.Opcode

/-! Control PDUs: an opcode and its parameters. -/

namespace BlePeripheral

structure ControlPdu where
  opcode : ControlOpcode
  params : Bytes
deriving DecidableEq, Repr

namespace ControlPdu

def ofPayload? : Bytes → Option ControlPdu
  | [] => none
  | code :: params => some { opcode := .ofCode code, params }

def terminateReason? (pdu : ControlPdu) : Option UInt8 :=
  if pdu.opcode = .terminateInd then pdu.params.head? else none

end ControlPdu

/-- What becomes of the connection once a control PDU has been handled. -/
inductive ControlAction where
  | keepConnection
  | terminate
deriving DecidableEq, Repr

end BlePeripheral

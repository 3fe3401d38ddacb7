import BlePeripheral.Control.Pdu
import BlePeripheral.Pdu.Frame

/-! The one-bit sequence numbers of a connection, which tell new PDUs from repeated ones and
acknowledged PDUs from lost ones. -/

namespace BlePeripheral

structure AckState where
  transmitSeq : Bool := false
  nextExpected : Bool := false
deriving DecidableEq, Repr

namespace AckState

/-- The header carries a PDU that has not been accepted yet. -/
def isNew (ack : AckState) (header : DataHeader) : Bool := header.sn == ack.nextExpected

/-- A new PDU moves the number expected next; an acknowledgment moves the number sent next. -/
def afterReceive (ack : AckState) (header : DataHeader) : AckState where
  nextExpected := if ack.isNew header then !ack.nextExpected else ack.nextExpected
  transmitSeq := if header.nesn != ack.transmitSeq then !ack.transmitSeq else ack.transmitSeq

/-- The numbers after a frame that is acknowledged whatever it holds. -/
def afterFrame (ack : AckState) (frame : Bytes) : AckState :=
  match DataHeader.ofFrame? frame with
  | some header => ack.afterReceive header
  | none => ack

/-- The control PDU in a data PDU, if the data PDU is new and has one. -/
def newControl? (ack : AckState) (pdu : DataPdu) : Option ControlPdu :=
  if ack.isNew pdu.header && pdu.header.llid = .control then ControlPdu.ofPayload? pdu.payload
  else none

def header (ack : AckState) (llid : Llid) : DataHeader :=
  ((({} : DataHeader).withLlidCode llid.code).withSn ack.transmitSeq).withNesn ack.nextExpected

def responseHeader (ack : AckState) : DataHeader := ack.header .control

end AckState

end BlePeripheral

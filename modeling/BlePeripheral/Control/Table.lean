import BlePeripheral.Notice

/-! The handlers of control PDUs, looked up by opcode. The link layer acknowledges control
PDUs by itself; anything beyond that is up to the handler registered for the opcode. -/

namespace BlePeripheral

/-- What a handler does about a PDU of a connection, and what it has to say about it. -/
structure ControlHandler where
  act : ControlPdu → ConnectionContext → ControlAction
  notices : ControlPdu → ConnectionContext → List Notice := fun _ _ => []

namespace ControlHandler

def always (action : ControlAction) : ControlHandler := { act := fun _ _ => action }

def terminateIf (cond : ControlPdu → ConnectionContext → Bool) : ControlHandler :=
  { act := fun pdu context => if cond pdu context then .terminate else .keepConnection }

def terminateOnRequest : ControlHandler where
  act _ _ := .terminate
  notices pdu context := [.terminationRequested pdu.terminateReason? context.accessAddress]

end ControlHandler

structure ControlTable where
  handler? : UInt8 → Option ControlHandler := fun _ => none

namespace ControlTable

/-- Replaces the handler of an opcode, whether the opcode is given by name or by code. -/
def register (t : ControlTable) (opcode : ControlOpcode) (h : ControlHandler) : ControlTable :=
  ⟨fun code => if code = opcode.code then some h else t.handler? code⟩

def unregister (t : ControlTable) (opcode : ControlOpcode) : ControlTable :=
  ⟨fun code => if code = opcode.code then none else t.handler? code⟩

def isRegistered (t : ControlTable) (opcode : ControlOpcode) : Bool :=
  (t.handler? opcode.code).isSome

def size (t : ControlTable) : Nat :=
  (List.range 256).countP fun code => (t.handler? (UInt8.ofNat code)).isSome

/-- Runs the handler of the PDU's opcode; a PDU without one is noted and keeps the connection. -/
def dispatch (t : ControlTable) (pdu : ControlPdu) (context : ConnectionContext) :
    ControlAction × List Notice :=
  match t.handler? pdu.opcode.code with
  | some h => (h.act pdu context, h.notices pdu context)
  | none => (.keepConnection, [.controlUnhandled pdu])

end ControlTable

end BlePeripheral

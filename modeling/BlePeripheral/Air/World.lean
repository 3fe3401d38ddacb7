import BlePeripheral.Air.Wait
import BlePeripheral.Control.Table

/-! What a link layer acts upon: the radio, the polls it may still spend, the notices it has
given and the control PDUs it has handed on. An action that runs out of polls stops where it is
and leaves the world as it was at that moment. -/

namespace BlePeripheral

structure World (P : Type) where
  radio : Radio P
  polls : Nat := 0
  notices : Array Notice := #[]
  /-- The control PDUs handed to a handler so far, or found to have none. Nothing reads them. -/
  dispatched : Array ControlPdu := #[]

inductive Hang where
  | outOfPolls
deriving DecidableEq, Repr

abbrev LinkM (P : Type) := EStateM Hang (World P)

namespace LinkM

variable {P α : Type}

def note (notice : Notice) : LinkM P Unit := fun ⟨radio, polls, notices, dispatched⟩ =>
  .ok () ⟨radio, polls, notices.push notice, dispatched⟩

def noteAll (new : List Notice) : LinkM P Unit := fun ⟨radio, polls, notices, dispatched⟩ =>
  .ok () ⟨radio, polls, notices.appendList new, dispatched⟩

/-- Hands a control PDU to the table. There is no other way to it, so what has been entered is what
the table has been asked about. -/
def dispatch (controls : ControlTable) (pdu : ControlPdu) (context : ConnectionContext) :
    LinkM P ControlAction := fun ⟨radio, polls, notices, dispatched⟩ =>
  let (action, said) := controls.dispatch pdu context
  .ok action ⟨radio, polls, notices.appendList said, dispatched.push pdu⟩

def onRadio (change : Radio P → Radio P) : LinkM P Unit :=
  fun ⟨radio, polls, notices, dispatched⟩ => .ok () ⟨change radio, polls, notices, dispatched⟩

def awaitRadio (wait : Nat → Radio P → Waited (Radio P) α) : LinkM P α :=
  fun ⟨radio, polls, notices, dispatched⟩ =>
    match wait polls radio with
    | ⟨some a, polls, radio⟩ => .ok a ⟨radio, polls, notices, dispatched⟩
    | ⟨none, polls, radio⟩ => .error .outOfPolls ⟨radio, polls, notices, dispatched⟩

def awaitClock (wait : Nat → Clock → Waited Clock α) : LinkM P α :=
  awaitRadio fun polls radio =>
    let { value?, polls, state } := wait polls radio.clock
    ⟨value?, polls, { radio with clock := state }⟩

def readClock : LinkM P Tick := awaitClock Clock.poll

def waitUntil (start : Tick) (span : UInt32) : LinkM P Unit :=
  awaitClock (Clock.waitUntil start span)

def listen (start : Tick) (span : UInt32) : LinkM P (Option RxFrame) :=
  awaitRadio (Radio.listen start span)

def waitForFrame : LinkM P RxFrame := awaitRadio Radio.waitForFrame

def configure (accessAddress crcInit : UInt32) (phy : Phy) : LinkM P Unit :=
  onRadio (·.configure accessAddress crcInit phy)

def send [Peer P] (pdu : Bytes) (channel : UInt8) : LinkM P Unit := do
  note (.pduSent channel pdu)
  onRadio (·.transmit channel pdu)

def receive [Peer P] (channel : UInt8) : LinkM P Unit :=
  fun ⟨radio, polls, notices, dispatched⟩ =>
    let (said, radio) := radio.receive channel
    .ok () ⟨radio, polls, notices.appendList said, dispatched⟩

def idle : LinkM P Unit := onRadio Radio.idle

end LinkM

end BlePeripheral

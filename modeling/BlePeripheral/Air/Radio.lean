import BlePeripheral.Air.Peer
import BlePeripheral.Time.Clock

/-! A simulated radio with its clock and the peer at the other end. Whatever is sent is on
the air at once; what the peer offers is received when the clock is polled late enough. -/

namespace BlePeripheral

structure RxFrame where
  bytes : Bytes
  timestamp : Tick
deriving DecidableEq, Repr

/-- One entry of a radio's journal. All but the last are what the radio was told to do. -/
inductive RadioEvent where
  | configured (accessAddress crcInit : UInt32) (phy : Phy)
  | transmitted (channel : UInt8) (pdu : Bytes) (time : Nat)
  | listened (channel : UInt8) (time : Nat)
  | idled (time : Nat)
  | delivered (frame : RxFrame)
deriving DecidableEq, Repr

/-- Since when the radio has listened, and what will arrive if it goes on. -/
structure Listening where
  opened : Tick
  delivery : Option Delivery
deriving DecidableEq, Repr

structure Radio (P : Type) where
  clock : Clock
  peer : P
  journal : Array RadioEvent := #[]
  accessAddress : UInt32 := 0
  listening : Option Listening := none
  received : Option RxFrame := none

namespace Radio

variable {P : Type}

def record (radio : Radio P) (event : RadioEvent) : Radio P :=
  { radio with journal := radio.journal.push event }

def afterRead (radio : Radio P) : Radio P := { radio with clock := radio.clock.afterRead }

def configure (radio : Radio P) (accessAddress crcInit : UInt32) (phy : Phy) : Radio P :=
  { radio.record (.configured accessAddress crcInit phy) with accessAddress }

def transmit [Peer P] (radio : Radio P) (channel : UInt8) (pdu : Bytes) : Radio P :=
  let radio := radio.record (.transmitted channel pdu radio.clock.time)
  { radio with
    peer := Peer.onTransmit radio.peer pdu channel radio.accessAddress radio.clock.now }

def receive [Peer P] (radio : Radio P) (channel : UInt8) : List Notice × Radio P :=
  let radio := radio.record (.listened channel radio.clock.time)
  let (reply, peer) :=
    Peer.onListen radio.peer channel radio.accessAddress radio.clock.now
  (reply.notices,
    { radio with
      peer
      listening := some ⟨radio.clock.now, reply.delivery⟩
      received := none })

/-- Reads the clock once and tells whether a frame has come in. It has when the offered
delay has passed since the radio began to listen; the radio then listens no more. -/
@[inline] def rxReady (radio : Radio P) : Bool × Radio P :=
  let now := radio.clock.now
  let radio := radio.afterRead
  match radio.listening with
  | some ⟨opened, some delivery⟩ =>
    if hasElapsed now opened delivery.delay then
      let frame : RxFrame := ⟨delivery.bytes, opened + delivery.delay⟩
      (true, { radio.record (.delivered frame) with listening := none, received := some frame })
    else (false, radio)
  | _ => (false, radio)

/-- The frame last received; before there is one, an empty frame of this moment. -/
def frame (radio : Radio P) : RxFrame := radio.received.getD ⟨[], radio.clock.now⟩

def idle (radio : Radio P) : Radio P :=
  { radio.record (.idled radio.clock.time) with listening := none }

def clearJournal (radio : Radio P) : Radio P := { radio with journal := #[] }

end Radio

end BlePeripheral

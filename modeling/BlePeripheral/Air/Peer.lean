import BlePeripheral.Notice

/-! The other side of the air. A peer is told when the radio starts to listen, and may then
have a frame arrive after a delay; it also hears what the radio sends. -/

namespace BlePeripheral

def advAccessAddress : UInt32 := 0x8E89BED6

def advCrcInit : UInt32 := 0x555555

/-- A frame that arrives once the radio has listened for `delay` ticks. -/
structure Delivery where
  delay : UInt32
  bytes : Bytes
deriving DecidableEq, Repr

structure Reply where
  delivery : Option Delivery := none
  notices : List Notice := []
deriving DecidableEq, Repr

class Peer (P : Type) where
  onListen (peer : P) (channel : UInt8) (accessAddress : UInt32) (now : Tick) : Reply × P
  onTransmit (peer : P) (pdu : Bytes) (channel : UInt8) (accessAddress : UInt32) (now : Tick) : P

end BlePeripheral

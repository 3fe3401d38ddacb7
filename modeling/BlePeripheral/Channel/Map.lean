import BlePeripheral.Hex

/-! Channel maps: the set of data channels, of the 37 there are, that a connection may use. -/

namespace BlePeripheral

/-- Bit `n` marks channel `n`. There are no bits for the three channels past the last one that the
five bytes on the air have room for, so none has to be masked away when the map is used. -/
structure ChannelMap where
  bits : BitVec 37
deriving DecidableEq, Repr

namespace ChannelMap

def mask : UInt64 := ((1 : UInt64) <<< 37) - 1

def all : ChannelMap := ⟨BitVec.allOnes 37⟩

def ofUInt64 (n : UInt64) : ChannelMap := ⟨BitVec.ofNat 37 n.toNat⟩

/-- Reads the five bytes sent; the three high bits of the last one are ignored. -/
def ofBytes (bytes : Bytes) : ChannelMap := ⟨BitVec.ofNat 37 (Bytes.toNatLE bytes)⟩

/-- Channels past the last one are ignored, and so are repetitions. -/
def ofChannels (channels : List UInt8) : ChannelMap :=
  ⟨channels.foldl (fun bits c => bits ||| 1#37 <<< c.toNat) 0⟩

def toUInt64 (m : ChannelMap) : UInt64 := UInt64.ofNat m.bits.toNat

def toBytes (m : ChannelMap) : Bytes := Bytes.ofNatLE 5 m.bits.toNat

def isUsed (m : ChannelMap) (channel : UInt8) : Bool := m.bits.getLsbD channel.toNat

def count (m : ChannelMap) : Nat := (List.range 37).countP m.bits.getLsbD

def channels (m : ChannelMap) : List UInt8 :=
  ((List.range 37).filter m.bits.getLsbD).map UInt8.ofNat

def record (m : ChannelMap) : String := "ChannelMap(0x" ++ Hex.padded 10 m.bits.toNat ++ ")"

@[simp] theorem length_channels (m : ChannelMap) : m.channels.length = m.count := by
  simp [channels, count, List.countP_eq_length_filter]

end ChannelMap

end BlePeripheral

import BlePeripheral.Channel.Map
import BlePeripheral.LinkError

/-! The channels a connection hops over. At least two must be in use, so the remainder that
remaps a channel is never taken by zero. -/

namespace BlePeripheral

structure UsedChannels where
  map : ChannelMap
  two_le_length : 2 ≤ map.channels.length
deriving DecidableEq, Repr

namespace UsedChannels

def ofMap (map : ChannelMap) : Except LinkError UsedChannels :=
  if h : 2 ≤ map.channels.length then .ok ⟨map, h⟩
  else .error (.degenerateChannelMap map.channels.length)

def toList (used : UsedChannels) : List UInt8 := used.map.channels

def size (used : UsedChannels) : Nat := used.toList.length

def contains (used : UsedChannels) (channel : UInt8) : Bool := used.map.isUsed channel

theorem size_pos (used : UsedChannels) : 0 < used.toList.length :=
  Nat.lt_of_lt_of_le Nat.two_pos used.two_le_length

/-- The channel itself when it is in use, else the one at its remainder in the list. -/
def remap (used : UsedChannels) (unmapped : UInt8) : UInt8 :=
  if used.contains unmapped then unmapped
  else
    have := Nat.mod_lt unmapped.toNat used.size_pos
    used.toList[unmapped.toNat % used.toList.length]

end UsedChannels

end BlePeripheral

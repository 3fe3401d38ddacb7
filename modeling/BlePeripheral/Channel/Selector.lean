import BlePeripheral.Channel.Used

/-! Channel selection #1. Hops are counted on the unmapped channel; the radio is tuned to
the remapped one. -/

namespace BlePeripheral

def unmappedHop (last hop : UInt8) : UInt8 := UInt8.ofNat ((last.toNat + hop.toNat) % 37)

def nextChannel (last hop : UInt8) (used : UsedChannels) : UInt8 :=
  used.remap (unmappedHop last hop)

structure ChannelSelector where
  used : UsedChannels
  hop : UInt8
  lastUnmapped : UInt8 := 0
  current : UInt8 := 0
deriving DecidableEq, Repr

namespace ChannelSelector

def next (s : ChannelSelector) : ChannelSelector :=
  let unmapped := unmappedHop s.lastUnmapped s.hop
  { s with lastUnmapped := unmapped, current := s.used.remap unmapped }

def take : Nat → ChannelSelector → List UInt8 × ChannelSelector
  | 0, s => ([], s)
  | n + 1, s =>
    let s := s.next
    let (rest, last) := take n s
    (s.current :: rest, last)

end ChannelSelector

end BlePeripheral

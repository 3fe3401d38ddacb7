import BlePeripheral.Time.Rate
import BlePeripheral.Time.Tick

/-! The receive window of a connection event, in ticks after the event's anchor. -/

namespace BlePeripheral

structure EventWindow where
  opening : UInt32
  closing : UInt32
deriving DecidableEq, Repr

namespace EventWindow

/-- Opens `offset` after the anchor for `size` ticks, cut off where the next interval begins. -/
def within (offset size interval : UInt32) : EventWindow :=
  let closing := min (saturate (offset.toNat + size.toNat)) interval
  { opening := min offset closing, closing }

theorem opening_within_le (offset size interval : UInt32) :
    (within offset size interval).opening ≤ (within offset size interval).closing := by
  unfold within
  exact Std.min_le_right

theorem closing_within_le (offset size interval : UInt32) :
    (within offset size interval).closing ≤ interval := by
  unfold within
  exact Std.min_le_right

def hasOpened (window : EventWindow) (anchor now : Tick) : Bool :=
  hasElapsed now anchor window.opening

def hasClosed (window : EventWindow) (anchor now : Tick) : Bool :=
  hasElapsed now anchor window.closing

def contains (window : EventWindow) (anchor now : Tick) : Bool :=
  window.hasOpened anchor now && !window.hasClosed anchor now

end EventWindow

end BlePeripheral

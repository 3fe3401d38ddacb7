/-! Ticks and true time. The tick counter is a free-running 32-bit word that wraps, so
two ticks are only ever compared through the wrapped time elapsed between them. -/

namespace BlePeripheral

abbrev Tick := UInt32

/-- What the tick counter shows at a true time, which is a count of ticks without a bound. -/
def Time.tick (t : Nat) : Tick := UInt32.ofNat t

/-- Ticks from `earlier` to `now`, modulo 2^32. -/
def elapsedSince (now earlier : Tick) : UInt32 := now - earlier

def hasElapsed (now start : Tick) (span : UInt32) : Bool := span ≤ elapsedSince now start

theorem Time.toNat_tick (t : Nat) : (Time.tick t).toNat = t % 4294967296 := by
  simp [Time.tick]

theorem elapsedSince_tick_add (t : Nat) (d : Nat) :
    elapsedSince (Time.tick (t + d)) (Time.tick t) = UInt32.ofNat d := by
  apply UInt32.toNat_inj.mp
  simp only [elapsedSince, Time.tick, UInt32.toNat_sub, UInt32.toNat_ofNat']
  omega

theorem elapsedSince_add (start : Tick) (span : UInt32) :
    elapsedSince (start + span) start = span := by
  unfold elapsedSince
  rw [UInt32.add_comm, UInt32.add_sub_cancel]

theorem elapsedSince_add_add (now earlier shift : Tick) :
    elapsedSince (now + shift) (earlier + shift) = elapsedSince now earlier := by
  apply UInt32.toNat_inj.mp
  have := now.toNat_lt
  have := earlier.toNat_lt
  have := shift.toNat_lt
  simp only [elapsedSince, UInt32.toNat_sub, UInt32.toNat_add]
  omega

end BlePeripheral

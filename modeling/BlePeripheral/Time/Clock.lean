import BlePeripheral.Time.Tick

/-! A simulated clock: time moves by a fixed step each time it is read, and otherwise only
when it is advanced from outside. -/

namespace BlePeripheral

structure Clock where
  time : Nat
  step : UInt32
deriving DecidableEq, Repr

namespace Clock

def now (clock : Clock) : Tick := Time.tick clock.time

def afterRead (clock : Clock) : Clock := { clock with time := clock.time + clock.step.toNat }

def advance (clock : Clock) (ticks : UInt32) : Clock :=
  { clock with time := clock.time + ticks.toNat }

@[simp] theorem now_afterRead (clock : Clock) : clock.afterRead.now = clock.now + clock.step := by
  simp [now, afterRead, Time.tick, UInt32.ofNat_add]

@[simp] theorem now_advance (clock : Clock) (ticks : UInt32) :
    (clock.advance ticks).now = clock.now + ticks := by
  simp [now, advance, Time.tick, UInt32.ofNat_add]

end Clock

/-- The counter that a timer interrupt drives and everything else only reads. -/
structure TickCounter where
  now : Tick := 0
deriving DecidableEq, Repr

namespace TickCounter

def increment (counter : TickCounter) : TickCounter := ⟨counter.now + 1⟩

def advance (counter : TickCounter) (ticks : UInt32) : TickCounter := ⟨counter.now + ticks⟩

end TickCounter

end BlePeripheral

/-! Conversion of protocol time units to ticks. Results past the largest word stay at it. -/

namespace BlePeripheral

def saturate (n : Nat) : UInt32 := UInt32.ofNat (min n 0xFFFFFFFF)

theorem toNat_saturate (n : Nat) : (saturate n).toNat = min n 0xFFFFFFFF := by
  simp only [saturate, UInt32.toNat_ofNat']
  omega

structure TickRate where
  ticksPerUs : UInt32
deriving DecidableEq, Repr

namespace TickRate

def ticksForUs (rate : TickRate) (us : UInt32) : UInt32 :=
  saturate (us.toNat * rate.ticksPerUs.toNat)

theorem toNat_ticksForUs {rate : TickRate} {us : Nat}
    (room : us * rate.ticksPerUs.toNat < 4294967296) (fits : us < 4294967296) :
    (rate.ticksForUs (saturate us)).toNat = us * rate.ticksPerUs.toNat := by
  have whole : (saturate us).toNat = us := by
    rw [toNat_saturate]
    omega
  rw [ticksForUs, toNat_saturate, whole]
  omega

def ticksForMs (rate : TickRate) (ms : UInt32) : UInt32 :=
  rate.ticksForUs (saturate (ms.toNat * 1000))

/-- Window size, window offset and connection interval count units of 1.25 ms. -/
def ticksFor1250Us (rate : TickRate) (units : UInt32) : UInt32 :=
  rate.ticksForUs (saturate (units.toNat * 1250))

/-- The supervision timeout counts units of 10 ms. -/
def ticksFor10Ms (rate : TickRate) (units : UInt32) : UInt32 :=
  rate.ticksForUs (saturate (units.toNat * 10000))

def interFrameSpace (rate : TickRate) : UInt32 := rate.ticksForUs 150

end TickRate

end BlePeripheral

import BlePeripheral.Channel.Used
import BlePeripheral.Connection.Request
import BlePeripheral.Time.Rate

/-! What a connection request settles for the connection it opens. Values keep their units
on the air; the tick counts are taken at a tick rate. -/

namespace BlePeripheral

structure ConnectionContext where
  initiator : DeviceAddress
  advertiser : DeviceAddress
  accessAddress : UInt32
  crcInit : UInt32
  winSize : UInt8
  winOffset : UInt16
  interval : UInt16
  latency : UInt16
  timeout : UInt16
  hopIncrement : UInt8
  sleepClockAccuracy : UInt8
  used : UsedChannels
deriving DecidableEq, Repr

namespace ConnectionContext

/-- A request is refused only for a map of fewer than two channels. -/
def ofRequest (r : ConnectRequest) : Except LinkError ConnectionContext := do
  let used ← UsedChannels.ofMap r.channelMap
  return {
    initiator := r.initiator
    advertiser := r.advertiser
    accessAddress := r.accessAddress
    crcInit := r.crcInit
    winSize := r.winSize
    winOffset := r.winOffset
    interval := r.interval
    latency := r.latency
    timeout := r.timeout
    hopIncrement := r.hopIncrement
    sleepClockAccuracy := r.sleepClockAccuracy
    used }

theorem ofRequest_eq_ok {r : ConnectRequest} {c : ConnectionContext} (h : ofRequest r = .ok c) :
    UsedChannels.ofMap r.channelMap = .ok c.used ∧
      c = {
        initiator := r.initiator
        advertiser := r.advertiser
        accessAddress := r.accessAddress
        crcInit := r.crcInit
        winSize := r.winSize
        winOffset := r.winOffset
        interval := r.interval
        latency := r.latency
        timeout := r.timeout
        hopIncrement := r.hopIncrement
        sleepClockAccuracy := r.sleepClockAccuracy
        used := c.used } := by
  unfold ofRequest at h
  cases used : UsedChannels.ofMap r.channelMap with
  | error e =>
    rw [used] at h
    cases h
  | ok used =>
    rw [used] at h
    cases h
    exact ⟨rfl, rfl⟩

/-- The interval lies between 7.5 ms and 4 s. -/
def intervalInRange (c : ConnectionContext) : Bool := 6 ≤ c.interval && c.interval ≤ 3200

def hopInRange (c : ConnectionContext) : Bool := 5 ≤ c.hopIncrement && c.hopIncrement ≤ 16

def windowOffsetTicks (c : ConnectionContext) (rate : TickRate) : UInt32 :=
  rate.ticksFor1250Us c.winOffset.toUInt32

def windowEndTicks (c : ConnectionContext) (rate : TickRate) : UInt32 :=
  rate.ticksFor1250Us (c.winOffset.toUInt32 + c.winSize.toUInt32)

def intervalTicks (c : ConnectionContext) (rate : TickRate) : UInt32 :=
  rate.ticksFor1250Us c.interval.toUInt32

def supervisionTicks (c : ConnectionContext) (rate : TickRate) : UInt32 :=
  rate.ticksFor10Ms c.timeout.toUInt32

end ConnectionContext

end BlePeripheral

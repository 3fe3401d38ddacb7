import BlePeripheral.Address.Basic
import BlePeripheral.Channel.Map

/-! The two requests a peer may answer an advertisement with, and their fixed layouts. -/

namespace BlePeripheral

structure ScanRequest where
  initiator : DeviceAddress
  advertiser : DeviceAddress
deriving DecidableEq, Repr

namespace ScanRequest

def size : Nat := 12

def ofBytes? (b : Bytes) : Option ScanRequest :=
  if b.length = size then
    some { initiator := .ofAir (Bytes.slice b 0 6), advertiser := .ofAir (Bytes.slice b 6 6) }
  else none

def toBytes (r : ScanRequest) : Bytes := r.initiator.toAir ++ r.advertiser.toAir

end ScanRequest

/-- A connection request as sent. Times keep their units on the air: 1.25 ms for the window
and the interval, connection events for the latency and 10 ms for the timeout. -/
structure ConnectRequest where
  initiator : DeviceAddress
  advertiser : DeviceAddress
  accessAddress : UInt32
  crc : BitVec 24
  winSize : UInt8
  winOffset : UInt16
  interval : UInt16
  latency : UInt16
  timeout : UInt16
  /-- The map field with its three reserved high bits. -/
  mapField : BitVec 40
  /-- The hop increment in the low five bits, the sleep clock accuracy in the high three. -/
  hopSca : UInt8
deriving DecidableEq, Repr

namespace ConnectRequest

def size : Nat := 34

def ofBytes? (b : Bytes) : Option ConnectRequest :=
  if b.length = size then
    some
      { initiator := .ofAir (Bytes.slice b 0 6)
        advertiser := .ofAir (Bytes.slice b 6 6)
        accessAddress := UInt32.ofNat (Bytes.natAt b 12 4)
        crc := BitVec.ofNat 24 (Bytes.natAt b 16 3)
        winSize := UInt8.ofNat (Bytes.natAt b 19 1)
        winOffset := UInt16.ofNat (Bytes.natAt b 20 2)
        interval := UInt16.ofNat (Bytes.natAt b 22 2)
        latency := UInt16.ofNat (Bytes.natAt b 24 2)
        timeout := UInt16.ofNat (Bytes.natAt b 26 2)
        mapField := BitVec.ofNat 40 (Bytes.natAt b 28 5)
        hopSca := UInt8.ofNat (Bytes.natAt b 33 1) }
  else none

def toBytes (r : ConnectRequest) : Bytes :=
  r.initiator.toAir ++ r.advertiser.toAir ++ Bytes.ofNatLE 4 r.accessAddress.toNat ++
    Bytes.ofNatLE 3 r.crc.toNat ++ [r.winSize] ++ Bytes.ofNatLE 2 r.winOffset.toNat ++
    Bytes.ofNatLE 2 r.interval.toNat ++ Bytes.ofNatLE 2 r.latency.toNat ++
    Bytes.ofNatLE 2 r.timeout.toNat ++ Bytes.ofNatLE 5 r.mapField.toNat ++ [r.hopSca]

def crcInit (r : ConnectRequest) : UInt32 := UInt32.ofNat r.crc.toNat

def hopIncrement (r : ConnectRequest) : UInt8 := r.hopSca &&& 0x1F

def sleepClockAccuracy (r : ConnectRequest) : UInt8 := r.hopSca >>> 5

def channelMap (r : ConnectRequest) : ChannelMap := ⟨r.mapField.setWidth 37⟩

end ConnectRequest

/-- The parameters that a connection request is made from. What does not fit its field on the
air is cut to the field's low bits. -/
structure ConnectParams where
  initiator : DeviceAddress
  advertiser : DeviceAddress
  accessAddress : UInt32
  crcInit : UInt32
  winSize : UInt8
  winOffset : UInt16
  interval : UInt16
  latency : UInt16
  timeout : UInt16
  channelMap : ChannelMap
  hopIncrement : UInt8
  sleepClockAccuracy : UInt8
deriving DecidableEq, Repr

def ConnectParams.toRequest (p : ConnectParams) : ConnectRequest where
  initiator := p.initiator
  advertiser := p.advertiser
  accessAddress := p.accessAddress
  crc := BitVec.ofNat 24 p.crcInit.toNat
  winSize := p.winSize
  winOffset := p.winOffset
  interval := p.interval
  latency := p.latency
  timeout := p.timeout
  mapField := p.channelMap.bits.setWidth 40
  hopSca := (p.hopIncrement &&& (0x1F : UInt8)) ||| (p.sleepClockAccuracy <<< (5 : UInt8))

end BlePeripheral

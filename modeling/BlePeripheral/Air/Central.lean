import BlePeripheral.Air.Peer
import BlePeripheral.Link.Ack
import BlePeripheral.Pdu.Frame

/-! A central that scans once, connects, exchanges empty PDUs, and in the end either asks to
terminate or falls silent. -/

namespace BlePeripheral

inductive CentralPhase where
  | scanning
  | connecting
  | connected
  | gone
deriving DecidableEq, Repr

structure Central where
  target : DeviceAddress
  replyDelay : UInt32
  /-- The data PDUs it sends before it is done; without a limit it goes on for ever. -/
  dropAfter : Option UInt32 := none
  /-- When done, it asks to terminate rather than falling silent. -/
  terminates : Bool := false
  phase : CentralPhase := .scanning
  ack : AckState := {}
  sent : UInt32 := 0
deriving DecidableEq, Repr

namespace Central

def address : DeviceAddress := .ofUInt64 0xC0FFEE000001

def accessAddress : UInt32 := 0xAF9A9CD7

def params (c : Central) : ConnectParams where
  initiator := address
  advertiser := c.target
  accessAddress := accessAddress
  crcInit := 0x2D6F1B
  winSize := 2
  winOffset := 4
  interval := 24
  latency := 0
  timeout := 20
  channelMap := .all
  hopIncrement := 7
  sleepClockAccuracy := 0

def terminatePayload : Bytes := [0x02, 0x13]

/-- The frame as a delivery; one that cannot be encoded is not sent. -/
def delivery? (c : Central) (encoded : Except LinkError Nat × Bytes) : Option Delivery :=
  match Frame.written encoded with
  | .ok bytes => some { delay := c.replyDelay, bytes }
  | .error _ => none

/-- The answer to an advertisement: first a scan request, then connection requests. -/
def advertisingReply (c : Central) : Reply × Central :=
  match c.phase with
  | .scanning =>
    let request : ScanRequest := { initiator := address, advertiser := c.target }
    let encoded :=
      Frame.encodeAdvertising .scanReq false request.toBytes (Frame.blank maxPduSize)
    ({ delivery := c.delivery? encoded }, { c with phase := .connecting })
  | .connecting =>
    let encoded :=
      Frame.encodeAdvertising .connectReq false c.params.toRequest.toBytes (Frame.blank maxPduSize)
    ({ delivery := c.delivery? encoded }, c)
  | .connected | .gone => ({}, c)

def isDone (c : Central) : Bool := c.dropAfter.any (· ≤ c.sent)

def sendData (c : Central) (llid : Llid) (payload : Bytes) : Reply × Central :=
  match c.delivery? (Frame.encodeData (c.ack.header llid) payload (Frame.blank maxPduSize)) with
  | some delivery => ({ delivery := some delivery }, { c with sent := c.sent + 1 })
  | none => ({}, c)

def dataReply (c : Central) : Reply × Central :=
  let c := if c.phase = .connecting then { c with phase := .connected } else c
  if c.phase = .gone then ({}, c)
  else if !c.isDone then c.sendData .dataContinue []
  else if c.terminates then sendData { c with phase := .gone } .control terminatePayload
  else ({ notices := [.centralSilent c.sent] }, { c with phase := .gone })

end Central

instance : Peer Central where
  onListen c _ accessAddress _ :=
    if accessAddress = advAccessAddress then c.advertisingReply
    else if accessAddress = Central.accessAddress then c.dataReply
    else ({}, c)
  onTransmit c pdu _ accessAddress _ :=
    if accessAddress = Central.accessAddress then
      match DataHeader.ofFrame? pdu with
      | some header => { c with ack := c.ack.afterReceive header }
      | none => c
    else c

end BlePeripheral

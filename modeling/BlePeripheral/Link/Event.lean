import BlePeripheral.Address.Text
import BlePeripheral.LinkError

/-! What comes of one step of a link. -/

namespace BlePeripheral

inductive LinkEvent where
  /-- An advertisement was sent and nothing came back. -/
  | advertised (channel : UInt8)
  | scanResponseSent (channel : UInt8) (scanner : DeviceAddress)
  | connectRequested (initiator : DeviceAddress) (accessAddress : UInt32) (channel : UInt8)
  | connectionRejected (initiator : DeviceAddress) (error : LinkError)
  | connected (accessAddress : UInt32) (channel : UInt8)
  | dataReceived (channel : UInt8) (llid : Llid) (length : Nat) (duplicate : Bool)
  | eventMissed (error : LinkError) (missed : UInt32)
  | connectionLost (error : LinkError)
  | terminated (reason : Option UInt8)
  | frameDiscarded (error : LinkError)
  /-- A well-formed frame that needs no action. -/
  | ignored (pduType : Option PduType)
deriving DecidableEq, Repr

namespace LinkEvent

def name : LinkEvent → String
  | advertised _ => "Advertised"
  | scanResponseSent .. => "ScanResponseSent"
  | connectRequested .. => "ConnectRequested"
  | connectionRejected .. => "ConnectionRejected"
  | connected .. => "Connected"
  | dataReceived .. => "DataReceived"
  | eventMissed .. => "EventMissed"
  | connectionLost _ => "ConnectionLost"
  | terminated _ => "Terminated"
  | frameDiscarded _ => "FrameDiscarded"
  | ignored _ => "Ignored"

def heading : LinkEvent → String
  | advertised _ => "advertised"
  | scanResponseSent .. => "scan response"
  | connectRequested .. => "connect request"
  | connectionRejected .. => "connection rejected"
  | connected .. => "connected"
  | dataReceived .. => "data"
  | eventMissed .. => "missed event"
  | connectionLost _ => "connection lost"
  | terminated _ => "terminated"
  | frameDiscarded _ => "discarded"
  | ignored _ => "ignored"

def fields : LinkEvent → List (String × String)
  | advertised channel => [("channel", toString channel)]
  | scanResponseSent channel scanner =>
    [("channel", toString channel), ("scanner", scanner.record)]
  | connectRequested initiator accessAddress channel =>
    [("initiator", initiator.record), ("access_address", toString accessAddress),
      ("channel", toString channel)]
  | connectionRejected initiator error =>
    [("initiator", initiator.record), ("error", error.record)]
  | connected accessAddress channel =>
    [("access_address", toString accessAddress), ("channel", toString channel)]
  | dataReceived channel llid length duplicate =>
    [("channel", toString channel), ("llid", llid.name), ("len", toString length),
      ("duplicate", toString duplicate)]
  | eventMissed error missed => [("error", error.record), ("missed", toString missed)]
  | connectionLost error | frameDiscarded error => [("error", error.record)]
  | terminated reason => [("reason", Text.optional (reason.map toString))]
  | ignored pduType => [("pdu_type", Text.optional (pduType.map PduType.identifier))]

def record (e : LinkEvent) : String := Text.record e.name e.fields

end LinkEvent

end BlePeripheral

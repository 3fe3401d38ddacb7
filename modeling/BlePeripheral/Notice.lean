import BlePeripheral.Advertising.Config
import BlePeripheral.Connection.Context
import BlePeripheral.Control.Pdu
import BlePeripheral.Link.Phase
import BlePeripheral.Time.Tick

/-! What the link layer has to say for itself. A notice is recorded whatever is asked for;
it is only when notices are written out that those below the wanted level are left out. -/

namespace BlePeripheral

inductive Level where
  | error
  | warn
  | info
  | debug
  | trace
deriving DecidableEq, Repr

namespace Level

def rank : Level → Nat
  | error => 0
  | warn => 1
  | info => 2
  | debug => 3
  | trace => 4

def name : Level → String
  | error => "ERROR"
  | warn => "WARN"
  | info => "INFO"
  | debug => "DEBUG"
  | trace => "TRACE"

/-- A threshold lets through its own level and the graver ones; without one, nothing passes. -/
def passes (level : Level) : Option Level → Bool
  | none => false
  | some threshold => level.rank ≤ threshold.rank

def line (level : Level) (text : String) : String :=
  String.ofList (List.replicate (5 - level.name.length) ' ') ++ level.name ++ " " ++ text

end Level

inductive Notice where
  | advertisingAs (address : DeviceAddress) (mode : AdvertisingMode) (intervalMs : UInt32)
  | phaseChanged (before after : LinkPhase)
  | frameReceived (channel : UInt8) (timestamp : Tick) (bytes : Bytes)
  | pduSent (channel : UInt8) (pdu : Bytes)
  | advFrameDiscarded (error : LinkError)
  | dataFrameDiscarded (error : LinkError)
  | scanAnswered (scanner : DeviceAddress) (channel : UInt8)
  | intervalOutOfRange (interval : UInt16)
  | hopOutOfRange (hop : UInt8)
  | connectRejected (initiator : DeviceAddress) (error : LinkError)
  | connectAccepted (context : ConnectionContext)
  | connected (initiator : DeviceAddress) (channel : UInt8) (accessAddress : UInt32)
  | windowMissed (error : LinkError) (channel : UInt8) (missed : UInt32)
  | controlReceived (pdu : ControlPdu) (eventCounter : UInt16)
  | controlUnhandled (pdu : ControlPdu)
  | terminationRequested (reason : Option UInt8) (accessAddress : UInt32)
  | connectionTerminated (reason : Option UInt8)
  | connectionLost (missed : UInt32) (error : LinkError)
  | centralSilent (sent : UInt32)
deriving DecidableEq, Repr

namespace Notice

def level : Notice → Level
  | advertisingAs .. | connected .. | connectionTerminated _ | connectionLost .. => .info
  | intervalOutOfRange _ | hopOutOfRange _ | connectRejected .. => .warn
  | frameReceived .. | pduSent .. => .trace
  | _ => .debug

def labelled (label value : String) : String := " " ++ label ++ "=" ++ value

def reasonText (reason : Option UInt8) : String := Text.optional (reason.map toString)

def text : Notice → String
  | advertisingAs address mode intervalMs =>
    s!"Advertising as {address.text} ({mode.text}, every {intervalMs} ms)"
  | phaseChanged before after => s!"{before.name} -> {after.name}"
  | frameReceived channel timestamp bytes => s!"RX ch{channel} @{timestamp}: {Hex.ofBytes bytes}"
  | pduSent channel pdu => s!"TX ch{channel}: {Hex.ofBytes pdu}"
  | advFrameDiscarded error => s!"Discarding advertising channel frame: {error.message}"
  | dataFrameDiscarded error => s!"Discarding data channel frame: {error.message}"
  | scanAnswered scanner channel => s!"Sent SCAN_RSP to {scanner.text} on channel {channel}"
  | intervalOutOfRange interval =>
    "Connection interval outside 7.5 ms..4 s" ++ labelled "interval" (toString interval)
  | hopOutOfRange hop =>
    "Hop increment outside 5..=16" ++ labelled "hop_increment" (toString hop)
  | connectRejected initiator error =>
    s!"Rejecting CONNECT_REQ from {initiator.text}: {error.message}"
  | connectAccepted c =>
    s!"CONNECT_REQ from {c.initiator.text}: AA {Hex.word c.accessAddress}, " ++
      s!"interval {c.interval}, window {c.winOffset}+{c.winSize}, timeout {c.timeout}, " ++
      s!"hop {c.hopIncrement}, {c.used.size} channels"
  | connected initiator channel accessAddress =>
    s!"Connected to {initiator.text} on channel {channel} (AA {Hex.word accessAddress})"
  | windowMissed error channel missed =>
    s!"{error.message} (channel {channel}, {missed} in a row)"
  | controlReceived pdu eventCounter => s!"{pdu.opcode.name} on event {eventCounter}"
  | controlUnhandled pdu =>
    "Unhandled control PDU" ++ labelled "opcode" pdu.opcode.name ++
      labelled "params" (Hex.ofBytes pdu.params)
  | terminationRequested reason accessAddress =>
    "Peer terminated the connection" ++ labelled "reason" (reasonText reason) ++
      labelled "access_address" (Hex.word accessAddress)
  | connectionTerminated reason => s!"Connection terminated by peer (reason {reasonText reason})"
  | connectionLost missed error =>
    s!"Connection lost after {missed} missed events: {error.message}"
  | centralSilent sent => s!"Central going silent after {sent} PDUs"

def line (notice : Notice) : String := notice.level.line notice.text

def lines (threshold : Option Level) (notices : List Notice) : List String :=
  (notices.filter fun notice => notice.level.passes threshold).map line

end Notice

end BlePeripheral

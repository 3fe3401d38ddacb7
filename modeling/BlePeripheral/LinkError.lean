import BlePeripheral.Pdu.Kind
import BlePeripheral.Text.Record

/-! What can go wrong on the link. Each failure is confined to one frame, one connection
attempt or one connection, and is reported with the sizes and counts that decided it. -/

namespace BlePeripheral

inductive FrameDefect where
  | missingHeader (actual : Nat)
  | truncated (declared available : Nat)
  | overLimit (declared max : Nat)
  | payloadSize (pduType : PduType) (expected actual : Nat)
deriving DecidableEq, Repr

namespace FrameDefect

def message : FrameDefect → String
  | missingHeader actual => s!"buffer of {actual} bytes is shorter than the 2-byte header"
  | truncated declared available =>
    s!"declared length {declared} exceeds the {available} bytes after the header"
  | overLimit declared max => s!"declared length {declared} exceeds the protocol maximum of {max}"
  | payloadSize pduType expected actual =>
    s!"{pduType.name} payload must be {expected} bytes, got {actual}"

def record : FrameDefect → String
  | missingHeader actual => Text.record "MissingHeader" [("actual", toString actual)]
  | truncated declared available =>
    Text.record "Truncated" [("declared", toString declared), ("available", toString available)]
  | overLimit declared max =>
    Text.record "OverLimit" [("declared", toString declared), ("max", toString max)]
  | payloadSize pduType expected actual =>
    Text.record "PayloadSize" [("pdu_type", pduType.identifier), ("expected", toString expected),
      ("actual", toString actual)]

end FrameDefect

inductive LinkError where
  | malformedFrame (defect : FrameDefect)
  | degenerateChannelMap (used : Nat)
  | windowMiss (eventCounter : UInt16)
  | supervisionTimeout (elapsed budget : UInt32)
  | payloadTooLong (length max : Nat)
  | bufferTooSmall (needed available : Nat)
  | advertisingDataTooLong (length max : Nat)
  | invalidAddress (text : String)
deriving DecidableEq, Repr

namespace LinkError

def kind : LinkError → String
  | malformedFrame _ => "MalformedFrame"
  | degenerateChannelMap _ => "DegenerateChannelMap"
  | windowMiss _ => "WindowMiss"
  | supervisionTimeout .. => "SupervisionTimeout"
  | payloadTooLong .. => "PayloadTooLong"
  | bufferTooSmall .. => "BufferTooSmall"
  | advertisingDataTooLong .. => "AdvertisingDataTooLong"
  | invalidAddress _ => "InvalidAddress"

def message : LinkError → String
  | malformedFrame defect => s!"Malformed frame: {defect.message}"
  | degenerateChannelMap used => s!"Channel map has {used} usable channels, at least 2 are required"
  | windowMiss eventCounter =>
    s!"No frame received in the window of connection event {eventCounter}"
  | supervisionTimeout elapsed budget =>
    s!"Supervision timeout: {elapsed} ticks since last frame, budget {budget}"
  | payloadTooLong length max => s!"Payload of {length} bytes exceeds the maximum of {max}"
  | bufferTooSmall needed available =>
    s!"Buffer too small: need {needed} bytes, have {available}"
  | advertisingDataTooLong length max =>
    s!"Advertising data of {length} bytes exceeds the maximum of {max}"
  | invalidAddress text => s!"Invalid device address: {text}"

def record (e : LinkError) : String :=
  match e with
  | malformedFrame defect => s!"{e.kind}({defect.record})"
  | degenerateChannelMap used => Text.record e.kind [("used", toString used)]
  | windowMiss eventCounter => Text.record e.kind [("event_counter", toString eventCounter)]
  | supervisionTimeout elapsed budget =>
    Text.record e.kind [("elapsed_ticks", toString elapsed), ("budget_ticks", toString budget)]
  | payloadTooLong length max | advertisingDataTooLong length max =>
    Text.record e.kind [("len", toString length), ("max", toString max)]
  | bufferTooSmall needed available =>
    Text.record e.kind [("needed", toString needed), ("available", toString available)]
  | invalidAddress text => s!"{e.kind}({Text.quoted text})"

end LinkError

end BlePeripheral

import BlePeripheral.Connection.Request
import BlePeripheral.LinkError
import BlePeripheral.Pdu.Header

/-! Frames: reading a received buffer as a PDU and writing a PDU into a buffer.
A buffer may hold more than its frame; what follows the declared length is never looked at. -/

namespace BlePeripheral

def headerSize : Nat := 2

def maxAdvPayload : Nat := 37

def maxDataPayload : Nat := 251

def maxPduSize : Nat := headerSize + maxDataPayload

/-- A PDU of an advertising channel. Only the two requests are read any further. -/
inductive AdvPdu where
  | scanRequest (header : AdvHeader) (request : ScanRequest)
  | connectRequest (header : AdvHeader) (request : ConnectRequest)
  | advertisement (header : AdvHeader) (payload : Bytes)
deriving DecidableEq, Repr

structure DataPdu where
  header : DataHeader
  payload : Bytes
deriving DecidableEq, Repr

def splitHeader : Bytes → Except FrameDefect (UInt8 × UInt8 × Bytes)
  | first :: second :: rest => .ok (first, second, rest)
  | short => .error (.missingHeader short.length)

/-- The payload that the header declares, within the protocol's limit and within the buffer. -/
def declaredPayload (rest : Bytes) (declared max : Nat) : Except FrameDefect Bytes :=
  if max < declared then .error (.overLimit declared max)
  else if rest.length < declared then .error (.truncated declared rest.length)
  else .ok (rest.take declared)

namespace AdvPdu

def ofBytes (buffer : Bytes) : Except FrameDefect AdvPdu := do
  let (first, second, rest) ← splitHeader buffer
  let header : AdvHeader := ⟨first, second⟩
  let payload ← declaredPayload rest header.length.toNat maxAdvPayload
  match header.pduType with
  | .scanReq =>
    match ScanRequest.ofBytes? payload with
    | some request => return .scanRequest header request
    | none => throw (.payloadSize .scanReq ScanRequest.size payload.length)
  | .connectReq =>
    match ConnectRequest.ofBytes? payload with
    | some request => return .connectRequest header request
    | none => throw (.payloadSize .connectReq ConnectRequest.size payload.length)
  | _ => return .advertisement header payload

def header : AdvPdu → AdvHeader
  | scanRequest header _ | connectRequest header _ | advertisement header _ => header

def payload : AdvPdu → Bytes
  | scanRequest _ request => request.toBytes
  | connectRequest _ request => request.toBytes
  | advertisement _ payload => payload

def pduType : AdvPdu → PduType
  | scanRequest .. => .scanReq
  | connectRequest .. => .connectReq
  | advertisement header _ => header.pduType

end AdvPdu

namespace DataPdu

def ofBytes (buffer : Bytes) : Except FrameDefect DataPdu := do
  let (first, second, rest) ← splitHeader buffer
  let header : DataHeader := ⟨first, second⟩
  let payload ← declaredPayload rest header.length.toNat maxDataPayload
  return { header, payload }

end DataPdu

namespace Frame

/-- The payload's length as a length byte. No limit is above 251, so it fits. -/
def lengthByte (payload : Bytes) (max : Nat) : Except LinkError UInt8 :=
  if max < payload.length then .error (.payloadTooLong payload.length max)
  else .ok (UInt8.ofNat payload.length)

def advertising (pduType : PduType) (txAdd : Bool) (payload : Bytes) : Except LinkError Bytes := do
  let length ← lengthByte payload maxAdvPayload
  let header : AdvHeader := {}
  return ((header.withTypeCode pduType.code).withTxAdd txAdd |>.withLength length).bytes ++ payload

/-- The header keeps all its bits but the length. -/
def data (header : DataHeader) (payload : Bytes) : Except LinkError Bytes := do
  let length ← lengthByte payload maxDataPayload
  return (header.withLength length).bytes ++ payload

/-- Writes a frame over the start of a buffer: the bytes used, and the buffer afterwards.
A buffer that is too small is left as it was. -/
def write (frame buffer : Bytes) : Except LinkError Nat × Bytes :=
  if buffer.length < frame.length then
    (.error (.bufferTooSmall frame.length buffer.length), buffer)
  else (.ok frame.length, frame ++ buffer.drop frame.length)

def encodeAdvertising (pduType : PduType) (txAdd : Bool) (payload buffer : Bytes) :
    Except LinkError Nat × Bytes :=
  match advertising pduType txAdd payload with
  | .error e => (.error e, buffer)
  | .ok frame => write frame buffer

def encodeData (header : DataHeader) (payload buffer : Bytes) : Except LinkError Nat × Bytes :=
  match data header payload with
  | .error e => (.error e, buffer)
  | .ok frame => write frame buffer

def written : Except LinkError Nat × Bytes → Except LinkError Bytes
  | (.error e, _) => .error e
  | (.ok used, buffer) => .ok (buffer.take used)

def blank (size : Nat) : Bytes := List.replicate size 0

end Frame

end BlePeripheral

/-! The kinds of PDU: the four-bit types of the advertising channels and the logical link
identifiers of the data channels. -/

namespace BlePeripheral

inductive PduType where
  | advInd
  | advDirectInd
  | advNonconnInd
  | scanReq
  | scanRsp
  | connectReq
  | advScanInd
  | auxExtInd
  | auxConnectRsp
  | unknown (code : UInt8)
deriving DecidableEq, Repr

namespace PduType

def known : List PduType :=
  [advInd, advDirectInd, advNonconnInd, scanReq, scanRsp, connectReq, advScanInd, auxExtInd,
    auxConnectRsp]

def code : PduType → UInt8
  | advInd => 0
  | advDirectInd => 1
  | advNonconnInd => 2
  | scanReq => 3
  | scanRsp => 4
  | connectReq => 5
  | advScanInd => 6
  | auxExtInd => 7
  | auxConnectRsp => 8
  | unknown code => code

def ofCode (c : UInt8) : PduType := (known.find? (·.code = c)).getD (.unknown c)

def name : PduType → String
  | advInd => "ADV_IND"
  | advDirectInd => "ADV_DIRECT_IND"
  | advNonconnInd => "ADV_NONCONN_IND"
  | scanReq => "SCAN_REQ"
  | scanRsp => "SCAN_RSP"
  | connectReq => "CONNECT_REQ"
  | advScanInd => "ADV_SCAN_IND"
  | auxExtInd => "AUX_EXT_IND"
  | auxConnectRsp => "AUX_CONNECT_RSP"
  | unknown _ => "UNKNOWN"

def identifier : PduType → String
  | advInd => "AdvInd"
  | advDirectInd => "AdvDirectInd"
  | advNonconnInd => "AdvNonconnInd"
  | scanReq => "ScanReq"
  | scanRsp => "ScanRsp"
  | connectReq => "ConnectReq"
  | advScanInd => "AdvScanInd"
  | auxExtInd => "AuxExtInd"
  | auxConnectRsp => "AuxConnectRsp"
  | unknown code => s!"Unknown({code})"

def isConnectable : PduType → Bool
  | advInd | advDirectInd => true
  | _ => false

def isScannable : PduType → Bool
  | advInd | advScanInd => true
  | _ => false

end PduType

/-- What a data channel PDU carries: nothing defined, a continuation (or nothing), the start
of a message, or control. -/
inductive Llid where
  | reserved
  | dataContinue
  | dataStart
  | control
deriving DecidableEq, Repr

namespace Llid

def code : Llid → UInt8
  | reserved => 0
  | dataContinue => 1
  | dataStart => 2
  | control => 3

def ofCode (c : UInt8) : Llid :=
  if c = 1 then dataContinue else if c = 2 then dataStart else if c = 3 then control else reserved

def name : Llid → String
  | reserved => "Reserved"
  | dataContinue => "DataContinue"
  | dataStart => "DataStart"
  | control => "Control"

end Llid

end BlePeripheral

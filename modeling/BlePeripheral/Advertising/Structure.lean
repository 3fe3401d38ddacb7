import BlePeripheral.LinkError
import BlePeripheral.Bytes

/-! Advertising data: a sequence of elements, each a length octet, a type octet and data. -/

namespace BlePeripheral

inductive AdStructure where
  | flags (value : UInt8)
  | txPower (dbm : Int8)
  | serviceUuids16 (uuids : List UInt16)
  | completeLocalName (name : String)
  | manufacturerData (companyId : UInt16) (data : Bytes)
  | raw (adType : UInt8) (data : Bytes)
deriving DecidableEq, Repr

namespace AdStructure

/-- General discoverable, and no classic radio beside the low-energy one. -/
def connectableFlags : UInt8 := 0x06

def adType : AdStructure → UInt8
  | flags _ => 0x01
  | txPower _ => 0x0A
  | serviceUuids16 _ => 0x03
  | completeLocalName _ => 0x09
  | manufacturerData .. => 0xFF
  | raw adType _ => adType

def encodedLength : AdStructure → Nat
  | flags _ => 3
  | txPower _ => 3
  | serviceUuids16 uuids => 2 + uuids.length * 2
  | completeLocalName name => 2 + name.utf8ByteSize
  | manufacturerData _ data => 4 + data.length
  | raw _ data => 2 + data.length

/-- The data octets; numbers of two octets are little-endian. -/
def octets : AdStructure → Bytes
  | flags value => [value]
  | txPower dbm => [dbm.toUInt8]
  | serviceUuids16 uuids => uuids.flatMap fun uuid => Bytes.ofNatLE 2 uuid.toNat
  | completeLocalName name => name.toUTF8.data.toList
  | manufacturerData companyId data => Bytes.ofNatLE 2 companyId.toNat ++ data
  | raw _ data => data

def bytes (s : AdStructure) : Bytes :=
  UInt8.ofNat (s.encodedLength - 1) :: s.adType :: s.octets

end AdStructure

/-- The advertising data that fits a payload beside the advertiser's address. -/
def maxAdData : Nat := 31

def totalLength : List AdStructure → Nat
  | [] => 0
  | s :: rest => s.encodedLength + totalLength rest

def encodeAdStructures (structures : List AdStructure) : Except LinkError Bytes :=
  let length := totalLength structures
  if maxAdData < length then .error (.advertisingDataTooLong length maxAdData)
  else .ok (structures.flatMap AdStructure.bytes)

end BlePeripheral

import BlePeripheral.Address.Text
import BlePeripheral.Advertising.Structure
import BlePeripheral.Pdu.Frame
import BlePeripheral.Time.Rate

/-! The configuration of a link, and the advertising PDUs that are encoded from it once. -/

namespace BlePeripheral

/-- Which undirected advertisement is sent: one that may be scanned and connected to, one
that may be scanned only, or one that is only broadcast. -/
inductive AdvertisingMode where
  | connectable
  | scannable
  | nonConnectable
deriving DecidableEq, Repr

namespace AdvertisingMode

def pduType : AdvertisingMode → PduType
  | connectable => .advInd
  | scannable => .advScanInd
  | nonConnectable => .advNonconnInd

def text : AdvertisingMode → String
  | connectable => "connectable"
  | scannable => "scannable"
  | nonConnectable => "non-connectable"

end AdvertisingMode

inductive Phy where
  | le1M
  | le2M
  | codedS2
  | codedS8
deriving DecidableEq, Repr

def Phy.text : Phy → String
  | le1M => "LE 1M"
  | le2M => "LE 2M"
  | codedS2 => "LE Coded S2"
  | codedS8 => "LE Coded S8"

structure LinkConfig where
  address : DeviceAddress := .ofUInt64 0x112233445566
  addressKind : AddressKind := .publicDevice
  mode : AdvertisingMode := .connectable
  advertisingData : List AdStructure :=
    [.flags AdStructure.connectableFlags, .completeLocalName "blelink"]
  /-- When this is empty, scan requests are not answered. -/
  scanResponseData : List AdStructure := []
  advIntervalMs : UInt32 := 500
  advRxWindowUs : UInt32 := 2000
  tickRate : TickRate := ⟨1⟩
  phy : Phy := .le1M
deriving DecidableEq, Repr

structure PreparedPdus where
  advertisement : Bytes
  scanResponse : Option Bytes
deriving DecidableEq, Repr

namespace LinkConfig

def encode (config : LinkConfig) (pduType : PduType) (structures : List AdStructure) :
    Except LinkError Bytes := do
  let body ← encodeAdStructures structures
  Frame.written (Frame.encodeAdvertising pduType config.addressKind.isRandom
    (config.address.toAir ++ body) (Frame.blank maxPduSize))

def prepare (config : LinkConfig) : Except LinkError PreparedPdus := do
  let advertisement ← config.encode config.mode.pduType config.advertisingData
  if config.scanResponseData.isEmpty then return { advertisement, scanResponse := none }
  let scanResponse ← config.encode .scanRsp config.scanResponseData
  return { advertisement, scanResponse := some scanResponse }

end LinkConfig

end BlePeripheral

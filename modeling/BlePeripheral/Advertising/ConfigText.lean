import BlePeripheral.Advertising.Config
import BlePeripheral.Json.Reader

/-! The configuration as JSON. What is not given keeps its default, and what is not known is
passed over. A structure may also be given as an array of its fields in order, and a choice
without a value as an object that gives it a null. -/

namespace BlePeripheral

/-- Why a configuration text is refused. Only an address that does not parse is told apart. -/
inductive ConfigError where
  | unreadable
  | address (error : LinkError)
deriving DecidableEq, Repr

abbrev Reading (α : Type) := Except ConfigError α

namespace Reading

variable {α : Type}

def ofOption : Option α → Reading α
  | some a => .ok a
  | none => .error .unreadable

def intWithin (low high : Int) : Json → Reading Int
  | .integer n => if low ≤ n ∧ n ≤ high then .ok n else .error .unreadable
  | _ => .error .unreadable

def uint8 (json : Json) : Reading UInt8 := do
  return UInt8.ofNat (← intWithin 0 255 json).toNat

def uint16 (json : Json) : Reading UInt16 := do
  return UInt16.ofNat (← intWithin 0 65535 json).toNat

def uint32 (json : Json) : Reading UInt32 := do
  return UInt32.ofNat (← intWithin 0 4294967295 json).toNat

def int8 (json : Json) : Reading Int8 := do
  return Int8.ofInt (← intWithin (-128) 127 json)

def string : Json → Reading String
  | .string (some s) => .ok s
  | _ => .error .unreadable

def listOf (read : Json → Reading α) : Json → Reading (List α)
  | .array items => items.mapM read
  | _ => .error .unreadable

def choice (named : List (String × α)) : Json → Reading α
  | .string (some name) => ofOption (named.lookup name)
  | .object [(some name, .null)] => ofOption (named.lookup name)
  | _ => .error .unreadable

/-- The members of an object by their keys: no key that is known may come twice, and none
may be without a text. -/
def membersByKey (known : List String) :
    List (Option String × Json) → List (String × Json) → Reading (List (String × Json))
  | [], found => .ok found
  | (none, _) :: _, _ => .error .unreadable
  | (some key, value) :: rest, found =>
    if known.contains key then
      if (found.lookup key).isSome then .error .unreadable
      else membersByKey known rest ((key, value) :: found)
    else membersByKey known rest found

def required (names : List String) : Json → Reading (List Json)
  | .object members => do
    let found ← membersByKey names members []
    names.mapM fun name => ofOption (found.lookup name)
  | .array items => if items.length = names.length then .ok items else .error .unreadable
  | _ => .error .unreadable

end Reading

open Reading

namespace DeviceAddress

def ofJson (json : Json) : Reading DeviceAddress := do
  let s ← string json
  match ofText s with
  | .ok address => return address
  | .error e => throw (.address e)

def toJson (a : DeviceAddress) : Json := Json.text a.text

end DeviceAddress

namespace AddressKind

def named : List (String × AddressKind) :=
  [("Public", .publicDevice), ("Random", .randomDevice)]

def toJson (kind : AddressKind) : Json := Json.text kind.name

end AddressKind

namespace AdvertisingMode

def named : List (String × AdvertisingMode) :=
  [("connectable", .connectable), ("scannable", .scannable), ("non_connectable", .nonConnectable)]

def toJson : AdvertisingMode → Json
  | connectable => Json.text "connectable"
  | scannable => Json.text "scannable"
  | nonConnectable => Json.text "non_connectable"

end AdvertisingMode

namespace Phy

def named : List (String × Phy) :=
  [("le1_m", .le1M), ("le2_m", .le2M), ("coded_s2", .codedS2), ("coded_s8", .codedS8)]

def toJson : Phy → Json
  | le1M => Json.text "le1_m"
  | le2M => Json.text "le2_m"
  | codedS2 => Json.text "coded_s2"
  | codedS8 => Json.text "coded_s8"

end Phy

namespace TickRate

def ofJson (json : Json) : Reading TickRate := do
  match ← required ["ticks_per_us"] json with
  | [ticks] => return ⟨← uint32 ticks⟩
  | _ => throw .unreadable

def toJson (rate : TickRate) : Json := Json.fields [("ticks_per_us", .nat rate.ticksPerUs.toNat)]

end TickRate

namespace AdStructure

def ofNamed (name : String) (value : Json) : Reading AdStructure :=
  match name with
  | "flags" => return .flags (← uint8 value)
  | "tx_power" => return .txPower (← int8 value)
  | "service_uuids16" => return .serviceUuids16 (← listOf uint16 value)
  | "complete_local_name" => return .completeLocalName (← string value)
  | "manufacturer_data" => do
    match ← required ["company_id", "data"] value with
    | [companyId, data] => return .manufacturerData (← uint16 companyId) (← listOf uint8 data)
    | _ => throw .unreadable
  | "raw" => do
    match ← required ["ad_type", "data"] value with
    | [adType, data] => return .raw (← uint8 adType) (← listOf uint8 data)
    | _ => throw .unreadable
  | _ => throw .unreadable

def ofJson : Json → Reading AdStructure
  | .object [(some name, value)] => ofNamed name value
  | _ => .error .unreadable

def bytesJson (bytes : Bytes) : Json := .array (bytes.map fun b => .nat b.toNat)

def toJson : AdStructure → Json
  | flags value => Json.fields [("flags", .nat value.toNat)]
  | txPower dbm => Json.fields [("tx_power", .integer dbm.toInt)]
  | serviceUuids16 uuids =>
    Json.fields [("service_uuids16", .array (uuids.map fun uuid => .nat uuid.toNat))]
  | completeLocalName name => Json.fields [("complete_local_name", .text name)]
  | manufacturerData companyId data =>
    Json.fields [("manufacturer_data",
      Json.fields [("company_id", .nat companyId.toNat), ("data", bytesJson data)])]
  | raw adType data =>
    Json.fields [("raw", Json.fields [("ad_type", .nat adType.toNat), ("data", bytesJson data)])]

end AdStructure

inductive ConfigField where
  | address
  | addressKind
  | mode
  | advertisingData
  | scanResponseData
  | advIntervalMs
  | advRxWindowUs
  | tickRate
  | phy
deriving DecidableEq, Repr

namespace ConfigField

def all : List ConfigField :=
  [address, addressKind, mode, advertisingData, scanResponseData, advIntervalMs, advRxWindowUs,
    tickRate, phy]

def name : ConfigField → String
  | address => "address"
  | addressKind => "address_kind"
  | mode => "mode"
  | advertisingData => "advertising_data"
  | scanResponseData => "scan_response_data"
  | advIntervalMs => "adv_interval_ms"
  | advRxWindowUs => "adv_rx_window_us"
  | tickRate => "tick_rate"
  | phy => "phy"

def ofName? (name : String) : Option ConfigField := all.find? (·.name = name)

def read (field : ConfigField) (json : Json) (config : LinkConfig) : Reading LinkConfig := do
  match field with
  | address => return { config with address := ← DeviceAddress.ofJson json }
  | addressKind => return { config with addressKind := ← choice AddressKind.named json }
  | mode => return { config with mode := ← choice AdvertisingMode.named json }
  | advertisingData => return { config with advertisingData := ← listOf AdStructure.ofJson json }
  | scanResponseData => return { config with scanResponseData := ← listOf AdStructure.ofJson json }
  | advIntervalMs => return { config with advIntervalMs := ← uint32 json }
  | advRxWindowUs => return { config with advRxWindowUs := ← uint32 json }
  | tickRate => return { config with tickRate := ← TickRate.ofJson json }
  | phy => return { config with phy := ← choice Phy.named json }

def toJson (field : ConfigField) (config : LinkConfig) : Json :=
  match field with
  | address => config.address.toJson
  | addressKind => config.addressKind.toJson
  | mode => config.mode.toJson
  | advertisingData => .array (config.advertisingData.map AdStructure.toJson)
  | scanResponseData => .array (config.scanResponseData.map AdStructure.toJson)
  | advIntervalMs => .nat config.advIntervalMs.toNat
  | advRxWindowUs => .nat config.advRxWindowUs.toNat
  | tickRate => config.tickRate.toJson
  | phy => config.phy.toJson

end ConfigField

namespace LinkConfig

/-- Reads members in their order. A field that is given twice is refused before its second
value is looked at. -/
def readMembers (config : LinkConfig) (seen : List ConfigField) :
    List (Option String × Json) → Reading LinkConfig
  | [] => .ok config
  | (none, _) :: _ => .error .unreadable
  | (some key, value) :: rest =>
    match ConfigField.ofName? key with
    | none => readMembers config seen rest
    | some field =>
      if seen.contains field then .error .unreadable
      else do
        let config ← field.read value config
        readMembers config (field :: seen) rest

def readItems (config : LinkConfig) : List ConfigField → List Json → Reading LinkConfig
  | _, [] => .ok config
  | [], _ :: _ => .error .unreadable
  | field :: fields, json :: rest => do
    let config ← field.read json config
    readItems config fields rest

def ofJson : Json → Reading LinkConfig
  | .object members => readMembers {} [] members
  | .array items => readItems {} ConfigField.all items
  | _ => .error .unreadable

/-- What is wrong with the text behind the configuration counts last. -/
def ofText (text : String) : Reading LinkConfig := do
  let (json, clean) := Json.ofText text
  let config ← ofJson json
  if clean then return config else throw .unreadable

def toJson (config : LinkConfig) : Json :=
  Json.fields (ConfigField.all.map fun field => (field.name, field.toJson config))

end LinkConfig

end BlePeripheral

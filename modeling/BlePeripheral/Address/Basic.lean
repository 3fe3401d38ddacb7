import BlePeripheral.Hex

/-! Device addresses: 48-bit numbers, written most significant byte first and sent least
significant byte first. -/

namespace BlePeripheral

structure DeviceAddress where
  value : BitVec 48
deriving DecidableEq, Repr

namespace DeviceAddress

def airSize : Nat := 6

/-- Bits above the 48th are dropped. -/
def ofUInt64 (n : UInt64) : DeviceAddress := ⟨BitVec.ofNat 48 n.toNat⟩

def toUInt64 (a : DeviceAddress) : UInt64 := UInt64.ofNat a.value.toNat

def ofAir (bytes : Bytes) : DeviceAddress := ⟨BitVec.ofNat 48 (Bytes.toNatLE bytes)⟩

def toAir (a : DeviceAddress) : Bytes := Bytes.ofNatLE airSize a.value.toNat

def zero : DeviceAddress := ⟨0⟩

@[simp] theorem length_toAir (a : DeviceAddress) : a.toAir.length = 6 :=
  Bytes.length_ofNatLE _ _

@[simp] theorem ofAir_toAir (a : DeviceAddress) : ofAir a.toAir = a := by
  have h := a.value.isLt
  cases a with
  | mk v =>
    simp only [ofAir, toAir, airSize, Bytes.toNatLE_ofNatLE, Bytes.capacity, mk.injEq]
    apply BitVec.eq_of_toNat_eq
    simp only [BitVec.toNat_ofNat]
    omega

theorem toAir_ofAir {bytes : Bytes} (h : bytes.length = 6) : (ofAir bytes).toAir = bytes := by
  have bound := Bytes.toNatLE_lt bytes
  simp only [h, Bytes.capacity] at bound
  have same : (BitVec.ofNat 48 (Bytes.toNatLE bytes)).toNat = Bytes.toNatLE bytes := by
    simp only [BitVec.toNat_ofNat]
    omega
  simp only [ofAir, toAir, airSize, same]
  rw [← h]
  exact Bytes.ofNatLE_toNatLE bytes

end DeviceAddress

inductive AddressKind where
  | publicDevice
  | randomDevice
deriving DecidableEq, Repr

namespace AddressKind

def ofBit (bit : Bool) : AddressKind := if bit then .randomDevice else .publicDevice

def isRandom : AddressKind → Bool
  | .publicDevice => false
  | .randomDevice => true

def name : AddressKind → String
  | .publicDevice => "Public"
  | .randomDevice => "Random"

end AddressKind

end BlePeripheral

import Mathlib.Data.List.Forall2
import BlePeripheral.Advertising.Structure

/-! Advertising data as the elements it is made of. Whoever receives it knows nothing of the
structures and goes by the length octets alone; main statement: that way the data is gone through to
its end, and there is one element for each structure, of its type and with its octets. -/

namespace BlePeripheral

structure AdElement where
  adType : UInt8
  data : Bytes
deriving DecidableEq, Repr

namespace AdElement

/-- The elements of advertising data. A length octet counts the type octet and the data octets, so it
is not zero; there are no elements if it is, or if it counts more octets than there are. -/
def walk : Bytes → Option (List AdElement)
  | [] => some []
  | [_] => none
  | length :: adType :: rest =>
    if 1 ≤ length.toNat ∧ length.toNat - 1 ≤ rest.length then
      (walk (rest.drop (length.toNat - 1))).map (⟨adType, rest.take (length.toNat - 1)⟩ :: ·)
    else none
termination_by b => b.length
decreasing_by
  simp only [List.length_drop, List.length_cons]
  omega

theorem walk_append {length adType : UInt8} {data : Bytes} (rest : Bytes)
    (whole : length.toNat = data.length + 1) :
    walk (length :: adType :: data ++ rest) = (walk rest).map (⟨adType, data⟩ :: ·) := by
  have size : length.toNat - 1 = data.length := by omega
  rw [List.cons_append, List.cons_append, walk, size, List.drop_left, List.take_left, if_pos]
  rw [List.length_append]
  omega

end AdElement

namespace AdStructure

def lowHigh (n : UInt16) : Bytes := [n.toUInt8, (n >>> 8).toUInt8]

def ToldBy : AdStructure → Bytes → Prop
  | flags value, data => data = [value]
  | txPower dbm, data => ∃ octet : UInt8, data = [octet] ∧ (octet.toNat : Int) = dbm.toInt % 256
  | serviceUuids16 uuids, data => data = uuids.flatMap lowHigh
  | completeLocalName name, data => (⟨data.toArray⟩ : ByteArray) = name.toUTF8
  | manufacturerData companyId rest, data => data = lowHigh companyId ++ rest
  | raw _ rest, data => data = rest

theorem ofNatLE_two (n : UInt16) : Bytes.ofNatLE 2 n.toNat = lowHigh n := by
  have high : UInt8.ofNat (n.toNat / 256) = (n >>> 8).toUInt8 := by
    apply UInt8.toNat_inj.mp
    simp [Nat.shiftRight_eq_div_pow]
  rw [Bytes.ofNatLE, Bytes.ofNatLE, Bytes.ofNatLE, high]
  rfl

theorem toNat_toUInt8 (n : Int8) : (n.toUInt8.toNat : Int) = n.toInt % 256 := by
  have same : n.toUInt8.toBitVec = n.toBitVec := rfl
  have bound := n.toBitVec.isLt
  rw [← UInt8.toNat_toBitVec, same, ← Int8.toInt_toBitVec, BitVec.toInt_eq_toNat_bmod, Int.bmod_def]
  omega

theorem toldBy_octets (s : AdStructure) : s.ToldBy s.octets := by
  cases s with
  | flags value => rfl
  | txPower dbm => exact ⟨dbm.toUInt8, rfl, toNat_toUInt8 dbm⟩
  | serviceUuids16 uuids => simp only [ToldBy, octets, ofNatLE_two]
  | completeLocalName name => simp only [ToldBy, octets, Array.toArray_toList]
  | manufacturerData companyId rest => simp only [ToldBy, octets, ofNatLE_two]
  | raw adType rest => rfl

theorem encodedLength_eq (s : AdStructure) : s.encodedLength = s.octets.length + 2 := by
  cases s with
  | flags value => rfl
  | txPower dbm => rfl
  | serviceUuids16 uuids =>
    induction uuids with
    | nil => rfl
    | cons uuid uuids ih =>
      simp only [encodedLength, octets, List.flatMap_cons, List.length_append, List.length_cons,
        Bytes.length_ofNatLE] at ih ⊢
      omega
  | completeLocalName name =>
    simp only [encodedLength, octets, Array.length_toList]
    exact Nat.add_comm _ _
  | manufacturerData companyId rest =>
    simp only [encodedLength, octets, List.length_append, Bytes.length_ofNatLE]
    omega
  | raw adType rest => exact Nat.add_comm _ _

theorem length_bytes (s : AdStructure) : s.bytes.length = s.encodedLength := by
  rw [encodedLength_eq]
  rfl

theorem toNat_length_octet {s : AdStructure} (fits : s.encodedLength ≤ 256) :
    (UInt8.ofNat (s.encodedLength - 1)).toNat = s.octets.length + 1 := by
  have counted := s.encodedLength_eq
  rw [UInt8.toNat_ofNat']
  omega

theorem walk_bytes {structures : List AdStructure}
    (fits : ∀ s ∈ structures, s.encodedLength ≤ 256) :
    AdElement.walk (structures.flatMap bytes) =
      some (structures.map fun s => ⟨s.adType, s.octets⟩) := by
  induction structures with
  | nil => rw [List.flatMap_nil, AdElement.walk, List.map_nil]
  | cons s structures ih =>
    obtain ⟨first, others⟩ := List.forall_mem_cons.mp fits
    rw [List.flatMap_cons, bytes, AdElement.walk_append _ (toNat_length_octet first), ih others]
    rfl

end AdStructure

theorem length_flatMap_bytes (structures : List AdStructure) :
    (structures.flatMap AdStructure.bytes).length = totalLength structures := by
  induction structures with
  | nil => rfl
  | cons s structures ih => rw [List.flatMap_cons, List.length_append, ih, s.length_bytes, totalLength]

theorem encodedLength_le_totalLength {structures : List AdStructure} {s : AdStructure}
    (member : s ∈ structures) : s.encodedLength ≤ totalLength structures := by
  induction member with
  | head => exact Nat.le_add_right _ _
  | tail _ _ ih => exact Nat.le_trans ih (Nat.le_add_left _ _)

theorem encodeAdStructures_eq_ok {structures : List AdStructure} {body : Bytes} :
    encodeAdStructures structures = .ok body ↔
      totalLength structures ≤ 31 ∧ body = structures.flatMap AdStructure.bytes := by
  rw [encodeAdStructures, maxAdData]
  by_cases long : 31 < totalLength structures
  · simp [long, Nat.not_le_of_lt long]
  · simp [long, Nat.le_of_not_lt long, eq_comm]

theorem encodeAdStructures_eq_error {structures : List AdStructure} {error : LinkError} :
    encodeAdStructures structures = .error error ↔ 31 < totalLength structures ∧
      error = .advertisingDataTooLong (totalLength structures) 31 := by
  rw [encodeAdStructures, maxAdData]
  by_cases long : 31 < totalLength structures
  · simp [long, eq_comm]
  · simp [long]

/-- Structures are refused if they are too long for advertising data, with their length and the
limit. Otherwise they are written in as many octets as are counted for them, and the walk over these
comes to their end and has found an element for each structure, in their order. -/
theorem advertising_data_decodable (structures : List AdStructure) :
    (∀ error, encodeAdStructures structures = .error error ↔ 31 < totalLength structures ∧
      error = .advertisingDataTooLong (totalLength structures) 31) ∧
    (totalLength structures ≤ 31 → ∃ body elements,
      encodeAdStructures structures = .ok body ∧ body.length = totalLength structures ∧
      AdElement.walk body = some elements ∧
      List.Forall₂ (fun s element => element.adType = s.adType ∧ s.ToldBy element.data) structures
        elements ∧
      ∀ s ∈ structures, ∃ length rest, s.bytes = length :: rest ∧ length.toNat = rest.length ∧
        length ≠ 0) := by
  refine ⟨fun error => encodeAdStructures_eq_error, ?_⟩
  intro fits
  have small : ∀ s ∈ structures, s.encodedLength ≤ 256 := by
    intro s member
    have least := encodedLength_le_totalLength member
    omega
  refine ⟨_, _, encodeAdStructures_eq_ok.mpr ⟨fits, rfl⟩, length_flatMap_bytes structures,
    AdStructure.walk_bytes small, ?_, ?_⟩
  · rw [List.forall₂_map_right_iff, List.forall₂_same]
    intro s _
    exact ⟨rfl, s.toldBy_octets⟩
  · intro s member
    have whole := AdStructure.toNat_length_octet (small s member)
    refine ⟨_, _, rfl, whole, ?_⟩
    intro zero
    rw [zero] at whole
    cases whole

end BlePeripheral

import BlePeripheral.Proofs.Pdu.Requests

/-! What is written as a frame is read back as it was: the two requests from their layouts, and
a PDU from a buffer that has room for it. -/

namespace BlePeripheral

namespace Bytes

theorem slice_append_right (first rest : Bytes) {offset size : Nat} (past : first.length ≤ offset) :
    slice (first ++ rest) offset size = slice rest (offset - first.length) size := by
  rw [slice, slice, List.drop_append, List.drop_of_length_le past, List.nil_append]

theorem slice_append_left (first rest : Bytes) {size : Nat} (whole : first.length = size) :
    slice (first ++ rest) 0 size = first := by
  rw [slice, List.drop_zero, ← whole, List.take_left]

theorem slice_whole (b : Bytes) {size : Nat} (whole : b.length = size) : slice b 0 size = b := by
  rw [slice, List.drop_zero, ← whole, List.take_length]

theorem slice_append_slice (b : Bytes) {offset size next : Nat} (size' : Nat)
    (h : next = offset + size) :
    slice b offset size ++ slice b next size' = slice b offset (size + size') := by
  rw [h, slice, slice, slice, List.take_add, List.drop_drop]

theorem ofNatLE_natAt (b : Bytes) {offset size : Nat} (h : offset + size ≤ b.length) :
    ofNatLE size (natAt b offset size) = slice b offset size := by
  have length : (slice b offset size).length = size := by
    rw [length_slice]
    omega
  have same := ofNatLE_toNatLE (slice b offset size)
  rwa [length] at same

theorem ofNatLE_natAt_mod (b : Bytes) {offset size modulus : Nat} (h : offset + size ≤ b.length)
    (word : modulus = capacity size) :
    ofNatLE size (natAt b offset size % modulus) = slice b offset size := by
  have length : (slice b offset size).length = size := by
    rw [length_slice]
    omega
  have bound := toNatLE_lt (slice b offset size)
  rw [length, ← word] at bound
  rw [natAt, Nat.mod_eq_of_lt bound]
  exact ofNatLE_natAt b h

@[simp] theorem slice_cons_succ (first : UInt8) (rest : Bytes) (offset size : Nat) :
    slice (first :: rest) (offset + 1) size = slice rest offset size := rfl

@[simp] theorem slice_cons_zero (first : UInt8) (rest : Bytes) :
    slice (first :: rest) 0 1 = [first] := by
  simp [slice]

end Bytes

theorem ScanRequest.length_toBytes (r : ScanRequest) : r.toBytes.length = size := by
  simp [toBytes, size]

theorem ScanRequest.ofBytes?_toBytes (r : ScanRequest) : ofBytes? r.toBytes = some r := by
  rw [ofBytes?, if_pos r.length_toBytes]
  simp (disch := simp) [toBytes, Bytes.slice_append_right, Bytes.slice_append_left,
    Bytes.slice_whole]

theorem ScanRequest.toBytes_of_ofBytes? {b : Bytes} {r : ScanRequest} (h : ofBytes? b = some r) :
    r.toBytes = b := by
  unfold ofBytes? at h
  split at h
  · rename_i length
    have room : b.length = 12 := length
    cases h
    rw [toBytes, DeviceAddress.toAir_ofAir (by simp [room]), DeviceAddress.toAir_ofAir (by simp [room]),
      Bytes.slice_append_slice b 6 rfl]
    exact Bytes.slice_whole b length
  · cases h

theorem ConnectRequest.length_toBytes (r : ConnectRequest) : r.toBytes.length = size := by
  simp [toBytes, size]

theorem ConnectRequest.ofBytes?_toBytes (r : ConnectRequest) : ofBytes? r.toBytes = some r := by
  have crc : BitVec.ofNat 24 (r.crc.toNat % 16777216) = r.crc := by
    rw [Nat.mod_eq_of_lt r.crc.isLt, BitVec.ofNat_toNat, BitVec.setWidth_eq]
  have map : BitVec.ofNat 40 (r.mapField.toNat % 1099511627776) = r.mapField := by
    rw [Nat.mod_eq_of_lt r.mapField.isLt, BitVec.ofNat_toNat, BitVec.setWidth_eq]
  rw [ofBytes?, if_pos r.length_toBytes]
  simp (disch := simp) [toBytes, Bytes.natAt, Bytes.slice_append_right, Bytes.slice_append_left,
    Bytes.toNatLE_ofNatLE, Bytes.capacity, Bytes.toNatLE, crc, map]

theorem ConnectRequest.toBytes_of_ofBytes? {b : Bytes} {r : ConnectRequest}
    (h : ofBytes? b = some r) : r.toBytes = b := by
  unfold ofBytes? at h
  split at h
  · rename_i length
    have room : b.length = 34 := length
    cases h
    have byte (offset : Nat) (h : offset + 1 ≤ b.length) :
        [UInt8.ofNat (Bytes.natAt b offset 1)] = Bytes.slice b offset 1 :=
      Bytes.ofNatLE_natAt b h
    simp (disch := simp [room, Bytes.capacity]) only [toBytes, DeviceAddress.toAir_ofAir,
      UInt32.toNat_ofNat', UInt16.toNat_ofNat', BitVec.toNat_ofNat, byte, Bytes.ofNatLE_natAt_mod,
      Bytes.slice_append_slice]
    exact Bytes.slice_whole b length
  · cases h

namespace Frame

theorem lengthByte_of_le {payload : Bytes} {max : Nat} (fits : payload.length ≤ max) :
    lengthByte payload max = .ok (UInt8.ofNat payload.length) :=
  if_neg (by omega)

theorem length_blank (size : Nat) : (blank size).length = size := List.length_replicate

theorem written_write {frame buffer : Bytes} (room : frame.length ≤ buffer.length) :
    written (write frame buffer) = .ok frame := by
  rw [write, if_neg (by omega), written, List.take_left]

def advHeader (pduType : PduType) (txAdd : Bool) (length : Nat) : AdvHeader :=
  ((({} : AdvHeader).withTypeCode pduType.code).withTxAdd txAdd).withLength (UInt8.ofNat length)

theorem encodeAdvertising_of_le {payload : Bytes} (pduType : PduType) (txAdd : Bool)
    (buffer : Bytes) (fits : payload.length ≤ maxAdvPayload) :
    encodeAdvertising pduType txAdd payload buffer =
      write ((advHeader pduType txAdd payload.length).bytes ++ payload) buffer := by
  have frame : advertising pduType txAdd payload =
      .ok ((advHeader pduType txAdd payload.length).bytes ++ payload) := by
    rw [advertising, lengthByte_of_le fits]
    rfl
  rw [encodeAdvertising, frame]

theorem encodeData_of_le {payload : Bytes} (header : DataHeader) (buffer : Bytes)
    (fits : payload.length ≤ maxDataPayload) :
    encodeData header payload buffer =
      write ((header.withLength (UInt8.ofNat payload.length)).bytes ++ payload) buffer := by
  have frame : data header payload =
      .ok ((header.withLength (UInt8.ofNat payload.length)).bytes ++ payload) := by
    rw [data, lengthByte_of_le fits]
    rfl
  rw [encodeData, frame]

theorem written_encodeAdvertising {payload buffer : Bytes} (pduType : PduType) (txAdd : Bool)
    (fits : payload.length ≤ maxAdvPayload) (room : headerSize + payload.length ≤ buffer.length) :
    written (encodeAdvertising pduType txAdd payload buffer) =
      .ok ((advHeader pduType txAdd payload.length).bytes ++ payload) := by
  rw [encodeAdvertising_of_le pduType txAdd buffer fits]
  apply written_write
  rw [List.length_append]
  exact room

theorem written_encodeData {header : DataHeader} {payload buffer : Bytes}
    (fits : payload.length ≤ maxDataPayload) (room : headerSize + payload.length ≤ buffer.length) :
    written (encodeData header payload buffer) =
      .ok ((header.withLength (UInt8.ofNat payload.length)).bytes ++ payload) := by
  rw [encodeData_of_le header buffer fits]
  apply written_write
  rw [List.length_append]
  exact room

end Frame

theorem AdvPdu.ofBytes_scanRequest (r : ScanRequest) :
    ofBytes ((Frame.advHeader .scanReq false ScanRequest.size).bytes ++ r.toBytes) =
      .ok (.scanRequest (Frame.advHeader .scanReq false ScanRequest.size) r) := by
  have length := r.length_toBytes
  refine ofBytes_eq_ok.mpr ⟨_, r.toBytes, rfl, by decide, ?_, .scanRequest (by decide) ?_⟩
  · rw [length]
    decide
  · have whole : (Frame.advHeader .scanReq false ScanRequest.size).length.toNat = r.toBytes.length := by
      rw [length]
      decide
    rw [whole, List.take_length, r.ofBytes?_toBytes]

theorem AdvPdu.ofBytes_connectRequest (txAdd : Bool) (r : ConnectRequest) :
    ofBytes ((Frame.advHeader .connectReq txAdd ConnectRequest.size).bytes ++ r.toBytes) =
      .ok (.connectRequest (Frame.advHeader .connectReq txAdd ConnectRequest.size) r) := by
  have length := r.length_toBytes
  have kind : (Frame.advHeader .connectReq txAdd ConnectRequest.size).pduType = .connectReq := by
    cases txAdd <;> decide
  have declared : (Frame.advHeader .connectReq txAdd ConnectRequest.size).length.toNat =
      ConnectRequest.size := by
    cases txAdd <;> decide
  refine ofBytes_eq_ok.mpr ⟨_, r.toBytes, rfl, ?_, ?_, .connectRequest kind ?_⟩
  · rw [declared]
    decide
  · exact Nat.le_of_eq (declared.trans length.symm)
  · rw [declared, ← length, List.take_length, r.ofBytes?_toBytes]

namespace DataPdu

theorem ofBytes_cons_cons (first second : UInt8) (rest : Bytes) :
    ofBytes (first :: second :: rest) =
      (declaredPayload rest second.toNat maxDataPayload).map (⟨⟨first, second⟩, ·⟩) := by
  show (do
    let payload ← declaredPayload rest second.toNat maxDataPayload
    return (⟨⟨first, second⟩, payload⟩ : DataPdu)) = _
  cases declaredPayload rest second.toNat maxDataPayload <;> rfl

theorem ofBytes_eq_ok {b : Bytes} {pdu : DataPdu} :
    ofBytes b = .ok pdu ↔ ∃ rest, b = pdu.header.bytes ++ rest ∧
      pdu.header.length.toNat ≤ maxDataPayload ∧ pdu.header.length.toNat ≤ rest.length ∧
      pdu.payload = rest.take pdu.header.length.toNat := by
  constructor
  · intro h
    match b with
    | [] => cases h
    | [_] => cases h
    | first :: second :: rest =>
      rw [ofBytes_cons_cons] at h
      cases declared : declaredPayload rest second.toNat maxDataPayload with
      | error defect =>
        rw [declared] at h
        cases h
      | ok payload =>
        rw [declared] at h
        cases h
        exact ⟨rest, rfl, declaredPayload_eq_ok.mp declared⟩
  · obtain ⟨⟨first, second⟩, payload⟩ := pdu
    rintro ⟨rest, rfl, declared⟩
    have whole : declaredPayload rest second.toNat maxDataPayload = .ok payload :=
      declaredPayload_eq_ok.mpr declared
    show ofBytes (first :: second :: rest) = _
    rw [ofBytes_cons_cons, whole]
    rfl

theorem ofFrame?_of_ofBytes {b : Bytes} {pdu : DataPdu} (h : ofBytes b = .ok pdu) :
    DataHeader.ofFrame? b = some pdu.header := by
  obtain ⟨rest, rfl, -⟩ := ofBytes_eq_ok.mp h
  rfl

theorem ofBytes_append {header : DataHeader} {payload : Bytes}
    (fits : payload.length ≤ maxDataPayload) (declared : header.length.toNat = payload.length) :
    ofBytes (header.bytes ++ payload) = .ok { header, payload } := by
  refine ofBytes_eq_ok.mpr ⟨payload, rfl, ?_, ?_, ?_⟩
  · exact declared ▸ fits
  · exact Nat.le_of_eq declared
  · show payload = payload.take header.length.toNat
    rw [declared, List.take_length]

end DataPdu

end BlePeripheral

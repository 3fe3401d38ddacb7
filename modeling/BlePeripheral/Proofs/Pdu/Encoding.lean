import BlePeripheral.Proofs.Pdu.Classification

/-! What is written into a buffer as a frame is read from it again, whatever the buffer has held
before, and a buffer that nothing can be written into is left as it was. -/

namespace BlePeripheral

theorem PduType.code_ofCode (c : UInt8) : (ofCode c).code = c := by
  unfold ofCode
  cases found : known.find? (fun t => decide (t.code = c)) with
  | none => rfl
  | some t => simpa using List.find?_some found

namespace Frame

/-- The outcome of writing a payload behind its header into a buffer: what is reported, and the
buffer afterwards. -/
structure Encodes (max : Nat) (payload buffer : Bytes) (outcome : Except LinkError Nat × Bytes) :
    Prop where
  tooLong : outcome.1 = .error (.payloadTooLong payload.length max) ↔ max < payload.length
  tooSmall : outcome.1 = .error (.bufferTooSmall (headerSize + payload.length) buffer.length) ↔
    payload.length ≤ max ∧ buffer.length < headerSize + payload.length
  used : outcome.1 = .ok (headerSize + payload.length) ↔
    payload.length ≤ max ∧ headerSize + payload.length ≤ buffer.length
  untouched : ∀ e, outcome.1 = .error e → outcome.2 = buffer
  beyond : outcome.2.length = buffer.length ∧
    outcome.2.drop (headerSize + payload.length) = buffer.drop (headerSize + payload.length)

theorem lengthByte_of_lt {payload : Bytes} {max : Nat} (long : max < payload.length) :
    lengthByte payload max = .error (.payloadTooLong payload.length max) :=
  if_pos long

section

variable {max : Nat} {payload buffer header : Bytes} {outcome : Except LinkError Nat × Bytes}

theorem length_header_append (two : header.length = headerSize) :
    (header ++ payload).length = headerSize + payload.length := by
  rw [List.length_append, two]

theorem write_of_le (two : header.length = headerSize)
    (room : headerSize + payload.length ≤ buffer.length) :
    write (header ++ payload) buffer = (.ok (headerSize + payload.length),
      header ++ payload ++ buffer.drop (headerSize + payload.length)) := by
  rw [write, length_header_append two, if_neg (by omega)]

theorem write_of_lt (two : header.length = headerSize)
    (small : buffer.length < headerSize + payload.length) :
    write (header ++ payload) buffer =
      (.error (.bufferTooSmall (headerSize + payload.length) buffer.length), buffer) := by
  rw [write, length_header_append two, if_pos small]

theorem encodes_of_write (header : Bytes) (two : header.length = headerSize)
    (long : max < payload.length →
      outcome = (.error (.payloadTooLong payload.length max), buffer))
    (fits : payload.length ≤ max → outcome = write (header ++ payload) buffer) :
    Encodes max payload buffer outcome := by
  by_cases tooLong : max < payload.length
  · rw [long tooLong]
    constructor <;> simp <;> omega
  by_cases tooSmall : buffer.length < headerSize + payload.length
  · rw [fits (Nat.le_of_not_lt tooLong), write_of_lt two tooSmall]
    constructor <;> simp <;> omega
  · have room := Nat.le_of_not_lt tooSmall
    rw [fits (Nat.le_of_not_lt tooLong), write_of_le two room]
    refine ⟨by simp; omega, by simp; omega, by simp; omega, nofun, ?_, ?_⟩
    · rw [List.length_append, length_header_append two, List.length_drop]
      omega
    · exact List.drop_left' (length_header_append two)

end

theorem encodes_advertising (pduType : PduType) (txAdd : Bool) (payload buffer : Bytes) :
    Encodes maxAdvPayload payload buffer (encodeAdvertising pduType txAdd payload buffer) := by
  refine encodes_of_write (advHeader pduType txAdd payload.length).bytes rfl ?_ ?_
  · intro long
    rw [encodeAdvertising, advertising, lengthByte_of_lt long]
    rfl
  · exact encodeAdvertising_of_le pduType txAdd buffer

theorem encodes_data (header : DataHeader) (payload buffer : Bytes) :
    Encodes maxDataPayload payload buffer (encodeData header payload buffer) := by
  refine encodes_of_write (header.withLength (UInt8.ofNat payload.length)).bytes rfl ?_ ?_
  · intro long
    rw [encodeData, data, lengthByte_of_lt long]
    rfl
  · exact encodeData_of_le header buffer

theorem chSel_advHeader (pduType : PduType) (txAdd : Bool) (length : Nat) :
    (advHeader pduType txAdd length).chSel = false := by
  rw [advHeader, AdvHeader.chSel_withLength, AdvHeader.chSel_withTxAdd, AdvHeader.chSel_withTypeCode]
  rfl

theorem rxAdd_advHeader (pduType : PduType) (txAdd : Bool) (length : Nat) :
    (advHeader pduType txAdd length).rxAdd = false := by
  rw [advHeader, AdvHeader.rxAdd_withLength, AdvHeader.rxAdd_withTxAdd, AdvHeader.rxAdd_withTypeCode]
  rfl

theorem length_advHeader (pduType : PduType) (txAdd : Bool) {length : Nat}
    (fits : length ≤ maxAdvPayload) :
    (advHeader pduType txAdd length).length.toNat = length := by
  have bound : length ≤ 37 := fits
  rw [advHeader, AdvHeader.length_withLength, UInt8.toNat_and, UInt8.toNat_ofNat']
  exact (Nat.and_two_pow_sub_one_eq_mod _ 6).trans (by omega)

end Frame

namespace AdvPdu

/-- What is read from a buffer into which a PDU of the four-bit type has been written: a request
only if its payload has the size of one. -/
structure ReadsBack (code : UInt8) (txAdd : Bool) (payload b : Bytes) : Prop where
  scanRequest : code = 3 → payload.length ≠ ScanRequest.size →
    ofBytes b = .error (.payloadSize .scanReq ScanRequest.size payload.length)
  connectRequest : code = 5 → payload.length ≠ ConnectRequest.size →
    ofBytes b = .error (.payloadSize .connectReq ConnectRequest.size payload.length)
  reads : (code = 3 → payload.length = ScanRequest.size) →
    (code = 5 → payload.length = ConnectRequest.size) →
    ∃ pdu, ofBytes b = .ok pdu ∧ pdu.payload = payload ∧ pdu.pduType = .ofCode code ∧
      pdu.header.txAdd = txAdd ∧ pdu.header.length.toNat = payload.length ∧
      pdu.header.chSel = false ∧ pdu.header.rxAdd = false

section

variable {header : AdvHeader} {payload : Bytes} (stale : Bytes)

theorem defect?_of_frame (fits : payload.length ≤ maxAdvPayload)
    (declared : header.length.toNat = payload.length) :
    defect? (header.bytes ++ payload ++ stale) = sizeDefect? (header.bytes ++ payload ++ stale) := by
  have length : declaredIn (header.bytes ++ payload ++ stale) = payload.length := declared
  have two : header.bytes.length = headerSize := rfl
  have frame : HoldsFrame (header.bytes ++ payload ++ stale) payload.length maxAdvPayload := by
    constructor
    · simp only [List.length_append, two]
      omega
    · exact fits
    · simp only [List.length_append, two]
      omega
  rw [defect?, length, frameDefect?_eq_none.mpr frame, Option.none_or]

theorem exists_ofBytes_of_frame (fits : payload.length ≤ maxAdvPayload)
    (declared : header.length.toNat = payload.length)
    (scanRequest : header.typeCode = 3 → payload.length = ScanRequest.size)
    (connectRequest : header.typeCode = 5 → payload.length = ConnectRequest.size) :
    ∃ pdu, ofBytes (header.bytes ++ payload ++ stale) = .ok pdu ∧ pdu.payload = payload ∧
      pdu.pduType = header.pduType ∧ pdu.header = header := by
  obtain ⟨pdu, read⟩ := exists_readAs header payload scanRequest connectRequest
  refine ⟨pdu, ofBytes_append_of_ok (ofBytes_eq_ok.mpr ⟨header, payload, rfl, ?_, ?_, ?_⟩) stale,
    read.payload_eq, read.pduType_eq, read.header_eq⟩
  · exact declared ▸ fits
  · exact Nat.le_of_eq declared
  · rwa [declared, List.take_length]

theorem readsBack_of_frame (fits : payload.length ≤ maxAdvPayload)
    (declared : header.length.toNat = payload.length) (chSel : header.chSel = false)
    (rxAdd : header.rxAdd = false) :
    ReadsBack header.typeCode header.txAdd payload (header.bytes ++ payload ++ stale) := by
  have length : declaredIn (header.bytes ++ payload ++ stale) = payload.length := declared
  have type : typeIn (header.bytes ++ payload ++ stale) = header.typeCode := rfl
  have checked := defect?_of_frame stale fits declared
  constructor
  · intro scan wrong
    apply ofBytes_of_defect
    rw [checked, sizeDefect?, type, length, if_pos ⟨scan, wrong⟩]
  · intro connect wrong
    apply ofBytes_of_defect
    rw [checked, sizeDefect?, type, length, if_neg (by simp [connect]), if_pos ⟨connect, wrong⟩]
  · intro scanRequest connectRequest
    obtain ⟨pdu, read, payload_eq, pduType, rfl⟩ :=
      exists_ofBytes_of_frame stale fits declared scanRequest connectRequest
    exact ⟨pdu, read, payload_eq, pduType, rfl, declared, chSel, rxAdd⟩

end

theorem readsBack_of_written {code : UInt8} (nibble : code &&& 0x0F = code) (txAdd : Bool)
    {payload : Bytes} (fits : payload.length ≤ maxAdvPayload) (stale : Bytes) :
    ReadsBack code txAdd payload
      ((Frame.advHeader (.ofCode code) txAdd payload.length).bytes ++ payload ++ stale) := by
  have typeCode : (Frame.advHeader (.ofCode code) txAdd payload.length).typeCode = code := by
    simp [Frame.advHeader, PduType.code_ofCode, nibble]
  have sent : (Frame.advHeader (.ofCode code) txAdd payload.length).txAdd = txAdd := by
    simp [Frame.advHeader]
  have back := readsBack_of_frame stale fits (Frame.length_advHeader (.ofCode code) txAdd fits)
    (Frame.chSel_advHeader _ _ _) (Frame.rxAdd_advHeader _ _ _)
  rwa [typeCode, sent] at back

/-- A PDU of an advertising channel is written whole or not at all, and read as it was written,
whatever is left in the buffer behind it. -/
theorem advertising_frame_survives (t : Fin 16) (txAdd : Bool) (payload buffer : Bytes) :
    Frame.Encodes maxAdvPayload payload buffer
        (Frame.encodeAdvertising (.ofCode (UInt8.ofNat t)) txAdd payload buffer) ∧
      (payload.length ≤ maxAdvPayload → headerSize + payload.length ≤ buffer.length →
        ReadsBack (UInt8.ofNat t) txAdd payload
          (Frame.encodeAdvertising (.ofCode (UInt8.ofNat t)) txAdd payload buffer).2) := by
  refine ⟨Frame.encodes_advertising _ _ _ _, ?_⟩
  intro fits room
  have nibble : UInt8.ofNat t &&& 0x0F = UInt8.ofNat t := by
    revert t
    decide
  rw [Frame.encodeAdvertising_of_le _ _ _ fits, Frame.write_of_le rfl room]
  exact readsBack_of_written nibble txAdd fits _

end AdvPdu

namespace DataPdu

/-- A data PDU is written whole or not at all, and read as it was written, whatever is left in the
buffer behind it. Of the header only the length is changed: the first byte, reserved bits
included, is kept, and a glance at the header sees the same. -/
theorem data_frame_survives (header : DataHeader) (payload buffer : Bytes) :
    Frame.Encodes maxDataPayload payload buffer (Frame.encodeData header payload buffer) ∧
      (payload.length ≤ maxDataPayload → headerSize + payload.length ≤ buffer.length →
        ∃ header', header'.first = header.first ∧ header'.length.toNat = payload.length ∧
          ofBytes (Frame.encodeData header payload buffer).2 = .ok { header := header', payload } ∧
          DataHeader.ofFrame? (Frame.encodeData header payload buffer).2 = some header') := by
  refine ⟨Frame.encodes_data header payload buffer, ?_⟩
  intro fits room
  have declared : (header.withLength (UInt8.ofNat payload.length)).length.toNat = payload.length := by
    have bound : payload.length ≤ 251 := fits
    rw [DataHeader.withLength, DataHeader.length, UInt8.toNat_ofNat']
    omega
  refine ⟨header.withLength (UInt8.ofNat payload.length), rfl, declared, ?_⟩
  rw [Frame.encodeData_of_le header buffer fits, Frame.write_of_le rfl room]
  exact ⟨ofBytes_append_of_ok (ofBytes_append fits declared) _, rfl⟩

end DataPdu

end BlePeripheral

import BlePeripheral.Proofs.Pdu.Frames

/-! Which buffers are read as a PDU. The grammar of a frame is stated on its bytes alone, and so
are the checks that tell what is wrong with a buffer that holds none: the header, the limit on the
payload, the bytes that are there, and last the size of a request. -/

namespace BlePeripheral

/-- The buffer has a header and, behind it, the payload that is declared. -/
structure HoldsFrame (b : Bytes) (declared max : Nat) : Prop where
  header : headerSize ≤ b.length
  limit : declared ≤ max
  payload : headerSize + declared ≤ b.length

def frameDefect? (b : Bytes) (declared max : Nat) : Option FrameDefect :=
  if b.length < headerSize then some (.missingHeader b.length)
  else if max < declared then some (.overLimit declared max)
  else if b.length < headerSize + declared then
    some (.truncated declared (b.length - headerSize))
  else none

theorem frameDefect?_eq_none {b : Bytes} {declared max : Nat} :
    frameDefect? b declared max = none ↔ HoldsFrame b declared max := by
  unfold frameDefect?
  constructor
  · intro h
    split at h
    · cases h
    · split at h
      · cases h
      · split at h
        · cases h
        · exact ⟨by omega, by omega, by omega⟩
  · rintro ⟨header, limit, payload⟩
    rw [if_neg (by omega), if_neg (by omega), if_neg (by omega)]

theorem frameDefect?_cons_cons (first second : UInt8) (rest : Bytes) (declared max : Nat) :
    frameDefect? (first :: second :: rest) declared max =
      match declaredPayload rest declared max with
      | .error defect => some defect
      | .ok _ => none := by
  have length : (first :: second :: rest).length = headerSize + rest.length := by
    simp only [List.length_cons, headerSize]
    omega
  rw [frameDefect?, length, if_neg (by omega), Nat.add_sub_cancel_left, declaredPayload]
  simp only [Nat.add_lt_add_iff_left]
  split
  · rfl
  · split <;> rfl

theorem read_of_check {ε α : Type} {read : Except ε α} {defect? : Option ε}
    (fails : ∀ defect, defect? = some defect → read = .error defect)
    (reads : defect? = none → ∃ pdu, read = .ok pdu) :
    ((∃ pdu, read = .ok pdu) ↔ defect? = none) ∧
      ∀ defect, read = .error defect ↔ defect? = some defect := by
  cases defect? with
  | none =>
    obtain ⟨pdu, ok⟩ := reads rfl
    simp [ok]
  | some defect => simp [fails defect rfl]

namespace DataPdu

def declaredIn (b : Bytes) : Nat := (b.getD 1 0).toNat

def WellFormed (b : Bytes) : Prop := HoldsFrame b (declaredIn b) maxDataPayload

def defect? (b : Bytes) : Option FrameDefect := frameDefect? b (declaredIn b) maxDataPayload

theorem ofBytes_of_defect {b : Bytes} {defect : FrameDefect} (h : defect? b = some defect) :
    ofBytes b = .error defect := by
  match b, h with
  | [], h =>
    cases h
    rfl
  | [_], h =>
    cases h
    rfl
  | first :: second :: rest, h =>
    have declared : declaredIn (first :: second :: rest) = second.toNat := rfl
    rw [defect?, declared, frameDefect?_cons_cons] at h
    rw [ofBytes_cons_cons]
    cases payload : declaredPayload rest second.toNat maxDataPayload with
    | error failed =>
      rw [payload] at h
      cases h
      rfl
    | ok payload' =>
      rw [payload] at h
      cases h

theorem exists_ofBytes {b : Bytes} (h : defect? b = none) : ∃ pdu, ofBytes b = .ok pdu := by
  have frame := frameDefect?_eq_none.mp h
  match b, frame with
  | [], frame => cases frame.header
  | [_], frame => exact absurd frame.header (by simp [headerSize])
  | first :: second :: rest, ⟨_, limit, enough⟩ =>
    refine ⟨⟨⟨first, second⟩, rest.take second.toNat⟩, ofBytes_eq_ok.mpr ⟨rest, rfl, limit, ?_, rfl⟩⟩
    show second.toNat ≤ rest.length
    have declared : declaredIn (first :: second :: rest) = second.toNat := rfl
    simp only [declared, List.length_cons, headerSize] at enough
    omega

theorem exists_ofBytes_iff {b : Bytes} : (∃ pdu, ofBytes b = .ok pdu) ↔ WellFormed b :=
  (read_of_check (fun _ => ofBytes_of_defect) exists_ofBytes).1.trans frameDefect?_eq_none

end DataPdu

namespace AdvHeader

theorem pduType_eq_scanReq {header : AdvHeader} : header.pduType = .scanReq ↔ header.typeCode = 3 :=
  pduType_eq_iff (by decide)

theorem pduType_eq_connectReq {header : AdvHeader} :
    header.pduType = .connectReq ↔ header.typeCode = 5 :=
  pduType_eq_iff (by decide)

end AdvHeader

namespace AdvPdu

def declaredIn (b : Bytes) : Nat := (b.getD 1 0 &&& 0x3F).toNat

def typeIn (b : Bytes) : UInt8 := b.getD 0 0 &&& 0x0F

/-- A frame of an advertising channel; a request has the size of its layout. -/
structure WellFormed (b : Bytes) : Prop where
  frame : HoldsFrame b (declaredIn b) maxAdvPayload
  scanRequest : typeIn b = 3 → declaredIn b = ScanRequest.size
  connectRequest : typeIn b = 5 → declaredIn b = ConnectRequest.size

def sizeDefect? (b : Bytes) : Option FrameDefect :=
  if typeIn b = 3 ∧ declaredIn b ≠ ScanRequest.size then
    some (.payloadSize .scanReq ScanRequest.size (declaredIn b))
  else if typeIn b = 5 ∧ declaredIn b ≠ ConnectRequest.size then
    some (.payloadSize .connectReq ConnectRequest.size (declaredIn b))
  else none

def defect? (b : Bytes) : Option FrameDefect :=
  (frameDefect? b (declaredIn b) maxAdvPayload).or (sizeDefect? b)

theorem sizeDefect?_eq_none {b : Bytes} :
    sizeDefect? b = none ↔ (typeIn b = 3 → declaredIn b = ScanRequest.size) ∧
      (typeIn b = 5 → declaredIn b = ConnectRequest.size) := by
  unfold sizeDefect?
  split
  · simp_all
  · split <;> simp_all

theorem defect?_eq_none {b : Bytes} : defect? b = none ↔ WellFormed b := by
  rw [defect?, Option.or_eq_none_iff, frameDefect?_eq_none, sizeDefect?_eq_none]
  constructor
  · rintro ⟨frame, scanRequest, connectRequest⟩
    exact ⟨frame, scanRequest, connectRequest⟩
  · rintro ⟨frame, scanRequest, connectRequest⟩
    exact ⟨frame, scanRequest, connectRequest⟩

section

variable {first second : UInt8} {rest : Bytes}

theorem ofBytes_of_sizeDefect {payload : Bytes} {defect : FrameDefect}
    (declared : declaredPayload rest (declaredIn (first :: second :: rest)) maxAdvPayload =
      .ok payload)
    (failed : sizeDefect? (first :: second :: rest) = some defect) :
    ofBytes (first :: second :: rest) = .error defect := by
  obtain ⟨-, enough, taken⟩ := declaredPayload_eq_ok.mp declared
  have length : payload.length = declaredIn (first :: second :: rest) := by
    rw [taken, List.length_take, Nat.min_eq_left enough]
  change declaredPayload rest (AdvHeader.length ⟨first, second⟩).toNat maxAdvPayload = _ at declared
  unfold sizeDefect? at failed
  split at failed
  · rename_i scan
    cases failed
    have refused : ScanRequest.ofBytes? payload = none := if_neg (by rw [length]; exact scan.2)
    have kind : AdvHeader.pduType ⟨first, second⟩ = .scanReq := AdvHeader.pduType_eq_scanReq.mpr scan.1
    simp only [ofBytes, splitHeader, bind, Except.bind, declared, kind, refused, length]
    rfl
  · split at failed
    · rename_i connect
      cases failed
      have refused : ConnectRequest.ofBytes? payload = none :=
        if_neg (by rw [length]; exact connect.2)
      have kind : AdvHeader.pduType ⟨first, second⟩ = .connectReq :=
        AdvHeader.pduType_eq_connectReq.mpr connect.1
      simp only [ofBytes, splitHeader, bind, Except.bind, declared, kind, refused, length]
      rfl
    · cases failed

end

theorem ofBytes_of_defect {b : Bytes} {defect : FrameDefect} (h : defect? b = some defect) :
    ofBytes b = .error defect := by
  match b, h with
  | [], h =>
    cases h
    rfl
  | [_], h =>
    cases h
    rfl
  | first :: second :: rest, h =>
    rw [defect?, frameDefect?_cons_cons] at h
    cases payload : declaredPayload rest (declaredIn (first :: second :: rest)) maxAdvPayload with
    | error failed =>
      rw [payload] at h
      cases h
      change declaredPayload rest (AdvHeader.length ⟨first, second⟩).toNat maxAdvPayload = _ at payload
      simp only [ofBytes, splitHeader, bind, Except.bind, payload]
    | ok payload' =>
      rw [payload, Option.none_or] at h
      exact ofBytes_of_sizeDefect payload h

theorem exists_readAs (header : AdvHeader) (payload : Bytes)
    (scanRequest : header.typeCode = 3 → payload.length = ScanRequest.size)
    (connectRequest : header.typeCode = 5 → payload.length = ConnectRequest.size) :
    ∃ pdu, ReadAs header payload pdu := by
  by_cases scan : header.pduType = .scanReq
  · exact ⟨_, .scanRequest scan (if_pos (scanRequest (AdvHeader.pduType_eq_scanReq.mp scan)))⟩
  by_cases connect : header.pduType = .connectReq
  · exact ⟨_, .connectRequest connect
      (if_pos (connectRequest (AdvHeader.pduType_eq_connectReq.mp connect)))⟩
  · exact ⟨_, .advertisement scan connect⟩

theorem exists_ofBytes {b : Bytes} (h : defect? b = none) : ∃ pdu, ofBytes b = .ok pdu := by
  obtain ⟨frame, scanRequest, connectRequest⟩ := defect?_eq_none.mp h
  obtain ⟨header, rest, rfl⟩ := AdvHeader.exists_append frame.header
  have declared : declaredIn (header.bytes ++ rest) = header.length.toNat := rfl
  have enough : header.length.toNat ≤ rest.length := by
    have payload := frame.payload
    rw [List.length_append, declared] at payload
    exact Nat.le_of_add_le_add_left payload
  have length : (rest.take header.length.toNat).length = declaredIn (header.bytes ++ rest) := by
    rw [List.length_take, Nat.min_eq_left enough, declared]
  obtain ⟨pdu, read⟩ := exists_readAs header (rest.take header.length.toNat)
    (fun scan => length.trans (scanRequest scan))
    (fun connect => length.trans (connectRequest connect))
  exact ⟨pdu, ofBytes_eq_ok.mpr ⟨header, rest, rfl, frame.limit, enough, read⟩⟩

section

variable {header : AdvHeader} {payload : Bytes} {pdu : AdvPdu}

theorem ReadAs.header_eq (h : ReadAs header payload pdu) : pdu.header = header := by
  cases h <;> rfl

theorem ReadAs.payload_eq (h : ReadAs header payload pdu) : pdu.payload = payload := by
  cases h with
  | scanRequest kind read => exact ScanRequest.toBytes_of_ofBytes? read
  | connectRequest kind read => exact ConnectRequest.toBytes_of_ofBytes? read
  | advertisement => rfl

theorem ReadAs.pduType_eq (h : ReadAs header payload pdu) : pdu.pduType = header.pduType := by
  cases h with
  | scanRequest kind => exact kind.symm
  | connectRequest kind => exact kind.symm
  | advertisement => rfl

end

/-- What a PDU shows of the buffer it is read from: the two header bytes, the type in them, the
payload behind them, and a request only where the type says so. -/
structure Views (b : Bytes) (pdu : AdvPdu) : Prop where
  header : pdu.header.bytes = b.take headerSize
  pduType : pdu.pduType = .ofCode (typeIn b)
  payload : pdu.payload = Bytes.slice b headerSize (declaredIn b)
  kind : match pdu with
    | scanRequest .. => typeIn b = 3
    | connectRequest .. => typeIn b = 5
    | advertisement .. => typeIn b ≠ 3 ∧ typeIn b ≠ 5

theorem views_of_ofBytes {b : Bytes} {pdu : AdvPdu} (h : ofBytes b = .ok pdu) : Views b pdu := by
  obtain ⟨header, rest, rfl, -, -, read⟩ := ofBytes_eq_ok.mp h
  refine ⟨by rw [read.header_eq]; rfl, by rw [read.pduType_eq]; rfl, read.payload_eq, ?_⟩
  cases read with
  | scanRequest kind => exact AdvHeader.pduType_eq_scanReq.mp kind
  | connectRequest kind => exact AdvHeader.pduType_eq_connectReq.mp kind
  | advertisement noScan noConnect =>
    exact ⟨mt AdvHeader.pduType_eq_scanReq.mpr noScan, mt AdvHeader.pduType_eq_connectReq.mpr noConnect⟩

theorem ofBytes_append_of_ok {b : Bytes} {pdu : AdvPdu} (h : ofBytes b = .ok pdu) (more : Bytes) :
    ofBytes (b ++ more) = .ok pdu := by
  obtain ⟨header, rest, rfl, limit, enough, read⟩ := ofBytes_eq_ok.mp h
  refine ofBytes_eq_ok.mpr ⟨header, rest ++ more, List.append_assoc _ _ _, limit, ?_, ?_⟩
  · rw [List.length_append]
    omega
  · rwa [List.take_append_of_le_length enough]

end AdvPdu

namespace DataPdu

structure Views (b : Bytes) (pdu : DataPdu) : Prop where
  header : pdu.header.bytes = b.take headerSize
  payload : pdu.payload = Bytes.slice b headerSize (declaredIn b)

theorem views_of_ofBytes {b : Bytes} {pdu : DataPdu} (h : ofBytes b = .ok pdu) : Views b pdu := by
  obtain ⟨rest, rfl, -, -, payload⟩ := ofBytes_eq_ok.mp h
  exact ⟨rfl, payload⟩

theorem ofBytes_append_of_ok {b : Bytes} {pdu : DataPdu} (h : ofBytes b = .ok pdu) (more : Bytes) :
    ofBytes (b ++ more) = .ok pdu := by
  obtain ⟨rest, rfl, limit, enough, payload⟩ := ofBytes_eq_ok.mp h
  refine ofBytes_eq_ok.mpr ⟨rest ++ more, List.append_assoc _ _ _, limit, ?_, ?_⟩
  · rw [List.length_append]
    omega
  · rw [payload, List.take_append_of_le_length enough]

end DataPdu

/-- On either kind of channel exactly the frames of the grammar are read, as what their bytes say
and whatever follows them, and of any other buffer the first check that it fails is reported. -/
theorem frames_read_exactly (b : Bytes) :
    ((∃ pdu, AdvPdu.ofBytes b = .ok pdu) ↔ AdvPdu.WellFormed b) ∧
      ((∃ pdu, DataPdu.ofBytes b = .ok pdu) ↔ DataPdu.WellFormed b) ∧
      (∀ pdu, AdvPdu.ofBytes b = .ok pdu →
        AdvPdu.Views b pdu ∧ ∀ more, AdvPdu.ofBytes (b ++ more) = .ok pdu) ∧
      (∀ pdu, DataPdu.ofBytes b = .ok pdu →
        DataPdu.Views b pdu ∧ ∀ more, DataPdu.ofBytes (b ++ more) = .ok pdu) ∧
      (∀ defect, AdvPdu.ofBytes b = .error defect ↔ AdvPdu.defect? b = some defect) ∧
      ∀ defect, DataPdu.ofBytes b = .error defect ↔ DataPdu.defect? b = some defect := by
  obtain ⟨advertising, refused⟩ :=
    read_of_check (fun _ => AdvPdu.ofBytes_of_defect) (AdvPdu.exists_ofBytes (b := b))
  obtain ⟨data, refused'⟩ :=
    read_of_check (fun _ => DataPdu.ofBytes_of_defect) (DataPdu.exists_ofBytes (b := b))
  refine ⟨advertising.trans AdvPdu.defect?_eq_none, data.trans frameDefect?_eq_none, ?_, ?_,
    refused, refused'⟩
  · intro pdu read
    exact ⟨AdvPdu.views_of_ofBytes read, AdvPdu.ofBytes_append_of_ok read⟩
  · intro pdu read
    exact ⟨DataPdu.views_of_ofBytes read, DataPdu.ofBytes_append_of_ok read⟩

end BlePeripheral

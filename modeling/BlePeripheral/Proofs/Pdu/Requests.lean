import BlePeripheral.Connection.Context
import BlePeripheral.Pdu.Frame

/-! The bytes that are read as a request to a device. A frame is a request for what two bytes
of header say, if it has as many bytes as they declare; what follows is not looked at. -/

namespace BlePeripheral

namespace PduType

theorem ofCode_eq_iff {c : UInt8} {t : PduType} (h : t ∈ known) : ofCode c = t ↔ c = t.code := by
  have distinct : ∀ s ∈ known, ∀ t ∈ known, s.code = t.code → s = t := by decide
  unfold ofCode
  cases found : known.find? (fun s => decide (s.code = c)) with
  | none =>
    have absent := List.find?_eq_none.mp found t h
    constructor
    · rintro rfl
      simp [known] at h
    · rintro rfl
      simp at absent
  | some s =>
    have code : s.code = c := by simpa using List.find?_some found
    constructor
    · rintro rfl
      exact code.symm
    · rintro rfl
      exact distinct s (List.mem_of_find?_eq_some found) t h code

end PduType

theorem declaredPayload_eq_ok {rest payload : Bytes} {declared max : Nat} :
    declaredPayload rest declared max = .ok payload ↔
      declared ≤ max ∧ declared ≤ rest.length ∧ payload = rest.take declared := by
  unfold declaredPayload
  split
  · constructor
    · exact nofun
    · omega
  split
  · constructor
    · exact nofun
    · omega
  · simp only [Except.ok.injEq]
    constructor
    · rintro rfl
      exact ⟨by omega, by omega, rfl⟩
    · rintro ⟨-, -, rfl⟩
      rfl

namespace AdvPdu

/-- How a payload is read under its header. -/
inductive ReadAs (header : AdvHeader) (payload : Bytes) : AdvPdu → Prop
  | scanRequest {request : ScanRequest} (kind : header.pduType = .scanReq)
      (read : ScanRequest.ofBytes? payload = some request) :
      ReadAs header payload (.scanRequest header request)
  | connectRequest {request : ConnectRequest} (kind : header.pduType = .connectReq)
      (read : ConnectRequest.ofBytes? payload = some request) :
      ReadAs header payload (.connectRequest header request)
  | advertisement (noScan : header.pduType ≠ .scanReq) (noConnect : header.pduType ≠ .connectReq) :
      ReadAs header payload (.advertisement header payload)

theorem ofBytes_cons_cons (first second : UInt8) (rest : Bytes) {payload : Bytes} {pdu : AdvPdu}
    (declared : declaredPayload rest (AdvHeader.length ⟨first, second⟩).toNat maxAdvPayload =
      .ok payload) :
    ofBytes (first :: second :: rest) = .ok pdu ↔ ReadAs ⟨first, second⟩ payload pdu := by
  simp only [ofBytes, splitHeader, bind, Except.bind, declared]
  split
  · rename_i kind
    cases read : ScanRequest.ofBytes? payload with
    | none =>
      constructor
      · exact nofun
      · rintro (⟨_, read'⟩ | ⟨kind', _⟩ | ⟨noScan, _⟩) <;> simp_all
    | some request =>
      constructor
      · rintro ⟨⟩
        exact .scanRequest kind read
      · rintro (⟨_, read'⟩ | ⟨kind', _⟩ | ⟨noScan, _⟩) <;> simp_all [pure, Except.pure]
  · rename_i kind
    cases read : ConnectRequest.ofBytes? payload with
    | none =>
      constructor
      · exact nofun
      · rintro (⟨kind', _⟩ | ⟨_, read'⟩ | ⟨_, noConnect⟩) <;> simp_all
    | some request =>
      constructor
      · rintro ⟨⟩
        exact .connectRequest kind read
      · rintro (⟨kind', _⟩ | ⟨_, read'⟩ | ⟨_, noConnect⟩) <;> simp_all [pure, Except.pure]
  · rename_i noScan noConnect
    constructor
    · rintro ⟨⟩
      exact .advertisement noScan noConnect
    · rintro (⟨kind, _⟩ | ⟨kind, _⟩ | ⟨_, _⟩)
      · exact absurd kind noScan
      · exact absurd kind noConnect
      · rfl

theorem ofBytes_eq_ok {b : Bytes} {pdu : AdvPdu} :
    ofBytes b = .ok pdu ↔ ∃ header rest, b = AdvHeader.bytes header ++ rest ∧
      header.length.toNat ≤ maxAdvPayload ∧ header.length.toNat ≤ rest.length ∧
      ReadAs header (rest.take header.length.toNat) pdu := by
  constructor
  · intro h
    match b with
    | [] => cases h
    | [_] => cases h
    | first :: second :: rest =>
      cases declared : declaredPayload rest (AdvHeader.length ⟨first, second⟩).toNat maxAdvPayload with
      | error defect =>
        simp only [ofBytes, splitHeader, bind, Except.bind, declared] at h
        cases h
      | ok payload =>
        have read := (ofBytes_cons_cons first second rest declared).mp h
        obtain ⟨max, enough, rfl⟩ := declaredPayload_eq_ok.mp declared
        exact ⟨⟨first, second⟩, rest, rfl, max, enough, read⟩
  · rintro ⟨⟨first, second⟩, rest, rfl, max, enough, read⟩
    exact (ofBytes_cons_cons first second rest
      (declaredPayload_eq_ok.mpr ⟨max, enough, rfl⟩)).mpr read

end AdvPdu

theorem ScanRequest.ofBytes?_eq_some {b : Bytes} {r : ScanRequest} (h : ofBytes? b = some r) :
    b.length = size ∧ r.advertiser = .ofAir (Bytes.slice b 6 6) := by
  unfold ofBytes? at h
  split at h
  · rename_i length
    cases h
    exact ⟨length, rfl⟩
  · cases h

theorem ConnectRequest.ofBytes?_eq_some {b : Bytes} {r : ConnectRequest} (h : ofBytes? b = some r) :
    b.length = size ∧ r.advertiser = .ofAir (Bytes.slice b 6 6) ∧
      r.mapField = BitVec.ofNat 40 (Bytes.natAt b 28 5) := by
  unfold ofBytes? at h
  split at h
  · rename_i length
    cases h
    exact ⟨length, rfl, rfl⟩
  · cases h

theorem ConnectRequest.count_channelMap {r : ConnectRequest} {n : Nat}
    (h : r.mapField = BitVec.ofNat 40 n) :
    r.channelMap.count = (List.range 37).countP n.testBit := by
  unfold ChannelMap.count
  apply List.countP_congr
  intro i member
  have low := List.mem_range.mp member
  have low' : i < 40 := by omega
  rw [channelMap, h, BitVec.getLsbD_setWidth, BitVec.getLsbD_ofNat]
  simp [low, low']

theorem AdvPdu.mapField_eq {b : Bytes} {header : AdvHeader} {request : ConnectRequest}
    (h : ofBytes b = .ok (.connectRequest header request)) :
    request.mapField = BitVec.ofNat 40 (Bytes.natAt b 30 5) := by
  obtain ⟨_, rest, rfl, -, -, as⟩ := ofBytes_eq_ok.mp h
  cases as with
  | connectRequest kind read =>
    obtain ⟨size, -, map⟩ := ConnectRequest.ofBytes?_eq_some read
    rw [List.length_take, ConnectRequest.size] at size
    rw [map, Bytes.natAt_take rest (by omega)]
    rfl

/-- A frame that begins with a request of the given type and payload size to a device. -/
def IsRequest (kind size : UInt8) (address : DeviceAddress) (b : Bytes) : Prop :=
  size.toNat + 2 ≤ b.length ∧ b.getD 0 0 &&& 0x0F = kind ∧ b.getD 1 0 &&& 0x3F = size ∧
    Bytes.slice b 8 6 = address.toAir

instance (kind size : UInt8) (address : DeviceAddress) (b : Bytes) :
    Decidable (IsRequest kind size address b) :=
  inferInstanceAs (Decidable (_ ∧ _ ∧ _ ∧ _))

theorem isRequest_append_iff {kind size : UInt8} {address : DeviceAddress} {header : AdvHeader}
    {rest : Bytes} : IsRequest kind size address (header.bytes ++ rest) ↔
      size.toNat ≤ rest.length ∧ header.typeCode = kind ∧ header.length = size ∧
        Bytes.slice rest 6 6 = address.toAir := by
  simp [IsRequest, AdvHeader.bytes, AdvHeader.typeCode, AdvHeader.length, Bytes.slice]

theorem AdvHeader.exists_append {b : Bytes} (h : 2 ≤ b.length) :
    ∃ header rest, b = AdvHeader.bytes header ++ rest := by
  match b with
  | [] => cases h
  | [_] => simp at h
  | first :: second :: rest => exact ⟨⟨first, second⟩, rest, rfl⟩

theorem AdvHeader.pduType_eq_iff {header : AdvHeader} {t : PduType} (h : t ∈ PduType.known) :
    header.pduType = t ↔ header.typeCode = t.code :=
  PduType.ofCode_eq_iff h

theorem isRequest_of_payload {t : PduType} {size : UInt8} {header : AdvHeader} {rest : Bytes}
    (known : t ∈ PduType.known) (room : 12 ≤ size.toNat) (kind : header.pduType = t)
    (enough : header.length.toNat ≤ rest.length)
    (length : (rest.take header.length.toNat).length = size.toNat) :
    IsRequest t.code size (.ofAir (Bytes.slice (rest.take header.length.toNat) 6 6))
      (header.bytes ++ rest) := by
  rw [List.length_take, Nat.min_eq_left enough] at length
  have air : (Bytes.slice rest 6 6).length = 6 := by
    rw [Bytes.length_slice]
    omega
  rw [Bytes.slice_take rest (by omega)]
  exact isRequest_append_iff.mpr ⟨by omega, (AdvHeader.pduType_eq_iff known).mp kind,
    UInt8.toNat_inj.mp length, (DeviceAddress.toAir_ofAir air).symm⟩

theorem IsRequest.exists_payload {t : PduType} {size : UInt8} {address : DeviceAddress} {b : Bytes}
    (h : IsRequest t.code size address b) (known : t ∈ PduType.known) (room : 12 ≤ size.toNat) :
    ∃ header rest, b = AdvHeader.bytes header ++ rest ∧ header.pduType = t ∧ header.length = size ∧
      header.length.toNat ≤ rest.length ∧
      (rest.take header.length.toNat).length = size.toNat ∧
      DeviceAddress.ofAir (Bytes.slice (rest.take header.length.toNat) 6 6) = address := by
  obtain ⟨header, rest, rfl⟩ := AdvHeader.exists_append (Nat.le_trans (by omega) h.1)
  obtain ⟨enough, kind, rfl, advertiser⟩ := isRequest_append_iff.mp h
  refine ⟨header, rest, rfl, (AdvHeader.pduType_eq_iff known).mpr kind, rfl, enough, ?_, ?_⟩
  · rw [List.length_take, Nat.min_eq_left enough]
  · rw [Bytes.slice_take rest (by omega), advertiser, DeviceAddress.ofAir_toAir]

theorem isRequest_scanReq_iff {address : DeviceAddress} {b : Bytes} :
    IsRequest 3 12 address b ↔ ∃ header request,
      AdvPdu.ofBytes b = .ok (.scanRequest header request) ∧ request.advertiser = address := by
  have known : PduType.scanReq ∈ PduType.known := by decide
  constructor
  · intro h
    obtain ⟨header, rest, rfl, kind, length, enough, size, advertiser⟩ :=
      IsRequest.exists_payload (t := .scanReq) h known (by decide)
    exact ⟨header, _, AdvPdu.ofBytes_eq_ok.mpr ⟨header, rest, rfl, by rw [length]; decide, enough,
      .scanRequest kind (if_pos size)⟩, advertiser⟩
  · rintro ⟨header, request, read, rfl⟩
    obtain ⟨header, rest, rfl, max, enough, as⟩ := AdvPdu.ofBytes_eq_ok.mp read
    cases as with
    | scanRequest kind read =>
      obtain ⟨size, advertiser⟩ := ScanRequest.ofBytes?_eq_some read
      rw [advertiser]
      exact isRequest_of_payload known (by decide) kind enough size

theorem isRequest_connectReq_iff {address : DeviceAddress} {b : Bytes} :
    IsRequest 5 34 address b ∧ 2 ≤ (List.range 37).countP (Bytes.natAt b 30 5).testBit ↔
      ∃ header request, AdvPdu.ofBytes b = .ok (.connectRequest header request) ∧
        request.advertiser = address ∧ 2 ≤ request.channelMap.count := by
  have known : PduType.connectReq ∈ PduType.known := by decide
  -- Both sides count the channels of the same five bytes.
  have channels {header : AdvHeader} {rest : Bytes} {request : ConnectRequest}
      (size : (rest.take header.length.toNat).length = ConnectRequest.size)
      (map : request.mapField =
        BitVec.ofNat 40 (Bytes.natAt (rest.take header.length.toNat) 28 5)) :
      request.channelMap.count =
        (List.range 37).countP (Bytes.natAt (header.bytes ++ rest) 30 5).testBit := by
    rw [List.length_take, ConnectRequest.size] at size
    rw [ConnectRequest.count_channelMap map, Bytes.natAt_take rest (by omega)]
    rfl
  constructor
  · rintro ⟨h, used⟩
    obtain ⟨header, rest, rfl, kind, length, enough, size, advertiser⟩ :=
      IsRequest.exists_payload (t := .connectReq) h known (by decide)
    refine ⟨header, _, AdvPdu.ofBytes_eq_ok.mpr ⟨header, rest, rfl, by rw [length]; decide, enough,
      .connectRequest kind (if_pos size)⟩, advertiser, ?_⟩
    rwa [channels size rfl]
  · rintro ⟨header, request, read, rfl, used⟩
    obtain ⟨header, rest, rfl, max, enough, as⟩ := AdvPdu.ofBytes_eq_ok.mp read
    cases as with
    | connectRequest kind read =>
      obtain ⟨size, advertiser, map⟩ := ConnectRequest.ofBytes?_eq_some read
      rw [channels size map] at used
      rw [advertiser]
      exact ⟨isRequest_of_payload known (by decide) kind enough size, used⟩

end BlePeripheral

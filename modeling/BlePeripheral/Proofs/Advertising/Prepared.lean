import BlePeripheral.Advertising.Config
import BlePeripheral.Proofs.Advertising.Elements
import BlePeripheral.Proofs.Pdu.Encoding

/-! What is prepared from a configuration: an advertisement and, if there is data for one, a scan
response, each a PDU that fits and is read as one of its type. Main statement: nothing but data that
is too long keeps a configuration from being prepared. -/

namespace BlePeripheral

namespace LinkConfig

def frame (config : LinkConfig) (pduType : PduType) (body : Bytes) : Bytes :=
  (Frame.advHeader pduType config.addressKind.isRandom (config.address.toAir ++ body).length).bytes ++
    (config.address.toAir ++ body)

/-- The PDU is read as an announcement of the structures, from the device and of the type, and there
is nothing behind it. -/
def Announces (config : LinkConfig) (pduType : PduType) (structures : List AdStructure)
    (pdu : Bytes) : Prop :=
  ∃ header body, AdvPdu.ofBytes pdu = .ok (.advertisement header (config.address.toAir ++ body)) ∧
    header.pduType = pduType ∧ (header.txAdd = true ↔ config.addressKind = .randomDevice) ∧
    encodeAdStructures structures = .ok body ∧
    pdu.length = 2 + 6 + totalLength structures

/-- What is reported of the first of the two lists of structures that is too long. -/
def oversized? (config : LinkConfig) : Option LinkError :=
  ([config.advertisingData, config.scanResponseData].find? fun structures =>
    31 < totalLength structures).map fun structures =>
      .advertisingDataTooLong (totalLength structures) 31

theorem length_toAir_append_le (config : LinkConfig) {structures : List AdStructure} {body : Bytes}
    (h : encodeAdStructures structures = .ok body) :
    (config.address.toAir ++ body).length ≤ maxAdvPayload := by
  obtain ⟨fits, rfl⟩ := encodeAdStructures_eq_ok.mp h
  rw [List.length_append, DeviceAddress.length_toAir, length_flatMap_bytes, maxAdvPayload]
  omega

section

variable {config : LinkConfig} {pduType : PduType} {structures : List AdStructure}

theorem encode_eq_map :
    config.encode pduType structures = (encodeAdStructures structures).map (config.frame pduType) := by
  unfold encode
  cases encoded : encodeAdStructures structures with
  | error e => rfl
  | ok body =>
    have fits := config.length_toAir_append_le encoded
    have room : headerSize + (config.address.toAir ++ body).length ≤
        (Frame.blank maxPduSize).length := by
      rw [Frame.length_blank]
      exact Nat.add_le_add_left (Nat.le_trans fits (by decide)) _
    exact Frame.written_encodeAdvertising pduType _ fits room

theorem encode_eq_ok {pdu : Bytes} :
    config.encode pduType structures = .ok pdu ↔
      ∃ body, encodeAdStructures structures = .ok body ∧ pdu = config.frame pduType body := by
  rw [encode_eq_map]
  cases encodeAdStructures structures with
  | error e => simp [Except.map]
  | ok body => simp [Except.map, eq_comm]

theorem announces_of_encode {pdu : Bytes} (h : config.encode pduType structures = .ok pdu)
    (known : pduType ∈ PduType.known) (noScan : pduType ≠ .scanReq)
    (noConnect : pduType ≠ .connectReq) : config.Announces pduType structures pdu := by
  obtain ⟨body, encoded, rfl⟩ := encode_eq_ok.mp h
  have fits := config.length_toAir_append_le encoded
  have declared := Frame.length_advHeader pduType config.addressKind.isRandom fits
  have nibble : ∀ t ∈ PduType.known, PduType.ofCode (t.code &&& 0x0F) = t := by decide
  have type : (Frame.advHeader pduType config.addressKind.isRandom
      (config.address.toAir ++ body).length).pduType = pduType := by
    simp [AdvHeader.pduType, Frame.advHeader, nibble pduType known]
  refine ⟨_, body, AdvPdu.ofBytes_eq_ok.mpr ⟨_, _, rfl, ?_, Nat.le_of_eq declared, ?_⟩, type, ?_,
    encoded, ?_⟩
  · rw [declared]
    exact fits
  · rw [declared, List.take_length]
    exact .advertisement (by rwa [type]) (by rwa [type])
  · simp only [Frame.advHeader, AdvHeader.txAdd_withLength, AdvHeader.txAdd_withTxAdd]
    cases config.addressKind <;> decide
  · obtain ⟨-, rfl⟩ := encodeAdStructures_eq_ok.mp encoded
    rw [← length_flatMap_bytes, frame, List.length_append, List.length_append,
      DeviceAddress.length_toAir]
    exact (Nat.add_assoc 2 6 _).symm

end

theorem prepare_eq_bind (config : LinkConfig) :
    config.prepare = (encodeAdStructures config.advertisingData).bind fun body =>
      (encodeAdStructures config.scanResponseData).map fun response =>
        { advertisement := config.frame config.mode.pduType body
          scanResponse := if config.scanResponseData = [] then none
            else some (config.frame .scanRsp response) } := by
  unfold prepare
  rw [encode_eq_map, encode_eq_map]
  cases encodeAdStructures config.advertisingData with
  | error e => rfl
  | ok body =>
    cases config.scanResponseData with
    | nil => rfl
    | cons first rest => cases encodeAdStructures (first :: rest) <;> rfl

theorem prepare_eq_ok {config : LinkConfig} {prepared : PreparedPdus}
    (h : config.prepare = .ok prepared) :
    config.encode config.mode.pduType config.advertisingData = .ok prepared.advertisement ∧
      (config.scanResponseData = [] ∧ prepared.scanResponse = none ∨
        ∃ response, config.scanResponseData ≠ [] ∧
          config.encode .scanRsp config.scanResponseData = .ok response ∧
          prepared.scanResponse = some response) := by
  rw [prepare_eq_bind] at h
  rw [encode_eq_map, encode_eq_map]
  cases advertising : encodeAdStructures config.advertisingData with
  | error e =>
    rw [advertising] at h
    cases h
  | ok body =>
    cases scan : encodeAdStructures config.scanResponseData with
    | error e =>
      rw [advertising, scan] at h
      cases h
    | ok response =>
      rw [advertising, scan] at h
      cases h
      refine ⟨rfl, ?_⟩
      by_cases data : config.scanResponseData = []
      · exact .inl ⟨data, if_pos data⟩
      · exact .inr ⟨_, data, rfl, if_neg data⟩

section

variable {config : LinkConfig} {prepared : PreparedPdus} (h : config.prepare = .ok prepared)

include h

theorem announces_advertisement :
    config.Announces config.mode.pduType config.advertisingData prepared.advertisement := by
  have kinds : ∀ mode : AdvertisingMode, mode.pduType ∈ PduType.known ∧ mode.pduType ≠ .scanReq ∧
      mode.pduType ≠ .connectReq := by
    rintro (_ | _ | _) <;> decide
  obtain ⟨known, noScan, noConnect⟩ := kinds config.mode
  exact announces_of_encode (prepare_eq_ok h).1 known noScan noConnect

theorem announces_scanResponse {response : Bytes} (some : prepared.scanResponse = some response) :
    config.Announces .scanRsp config.scanResponseData response := by
  obtain ⟨-, ⟨-, none⟩ | ⟨response', -, encoded, some'⟩⟩ := prepare_eq_ok h
  · cases none.symm.trans some
  · cases some'.symm.trans some
    exact announces_of_encode encoded (by decide) nofun nofun

theorem isSome_scanResponse :
    prepared.scanResponse.isSome = true ↔ config.scanResponseData ≠ [] := by
  obtain ⟨-, ⟨noData, none⟩ | ⟨response, data, -, some⟩⟩ := prepare_eq_ok h
  · simp [noData, none]
  · simp [data, some]

end

/-- The advertising data is encoded first, so it is what is reported if both lists are too long. -/
theorem prepare_of_oversized (config : LinkConfig) {error : LinkError}
    (h : config.oversized? = some error) : config.prepare = .error error := by
  rw [prepare_eq_bind]
  unfold oversized? at h
  by_cases long : 31 < totalLength config.advertisingData
  · rw [List.find?_cons_of_pos (by simpa using long)] at h
    cases h
    rw [encodeAdStructures_eq_error.mpr ⟨long, rfl⟩]
    rfl
  · have fits := Nat.le_of_not_lt long
    rw [List.find?_cons_of_neg (by simpa using long), Option.map_eq_some_iff] at h
    obtain ⟨structures, first, rfl⟩ := h
    rw [List.find?_singleton, Option.ite_none_right_eq_some, decide_eq_true_eq] at first
    obtain ⟨long, ⟨⟩⟩ := first
    rw [encodeAdStructures_eq_ok.mpr ⟨fits, rfl⟩, encodeAdStructures_eq_error.mpr ⟨long, rfl⟩]
    rfl

theorem oversized?_eq_none {config : LinkConfig} : config.oversized? = none ↔
    totalLength config.advertisingData ≤ 31 ∧ totalLength config.scanResponseData ≤ 31 := by
  simp [oversized?]

theorem exists_prepare (config : LinkConfig) (h : config.oversized? = none) :
    ∃ prepared, config.prepare = .ok prepared := by
  obtain ⟨fits, fits'⟩ := oversized?_eq_none.mp h
  rw [prepare_eq_bind, encodeAdStructures_eq_ok.mpr ⟨fits, rfl⟩,
    encodeAdStructures_eq_ok.mpr ⟨fits', rfl⟩]
  exact ⟨_, rfl⟩

/-- A configuration is prepared unless one of its two lists is too long for advertising data, and
then this is what is reported: the payload and the buffer have room for whatever is left. What is
prepared announces the one list as the mode has it and, unless it is empty, the other as a scan
response. -/
theorem prepares_unless_oversized (config : LinkConfig) :
    ((∃ prepared, config.prepare = .ok prepared) ↔
      totalLength config.advertisingData ≤ 31 ∧ totalLength config.scanResponseData ≤ 31) ∧
    (∀ error, config.prepare = .error error ↔ config.oversized? = some error) ∧
    ∀ prepared, config.prepare = .ok prepared →
      config.Announces config.mode.pduType config.advertisingData prepared.advertisement ∧
        (prepared.scanResponse.isSome = true ↔ config.scanResponseData ≠ []) ∧
        ∀ response, prepared.scanResponse = some response →
          config.Announces .scanRsp config.scanResponseData response := by
  obtain ⟨prepares, fails⟩ :=
    read_of_check (fun _ => config.prepare_of_oversized) config.exists_prepare
  refine ⟨prepares.trans oversized?_eq_none, fails, ?_⟩
  intro prepared h
  exact ⟨announces_advertisement h, isSome_scanResponse h, fun _ => announces_scanResponse h⟩

end LinkConfig

end BlePeripheral

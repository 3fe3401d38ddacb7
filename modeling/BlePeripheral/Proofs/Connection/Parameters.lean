import BlePeripheral.Connection.Context
import BlePeripheral.Proofs.Channel.Hops
import BlePeripheral.Proofs.Pdu.Encoding

/-! Connection parameters on the air. Of the parameters that a request is made from, a connection
that it opens holds what fits the fields. Of a request, its parameters hold all bits but the three
that are reserved behind the channel map. -/

namespace BlePeripheral

theorem toNat_and_low (b : UInt8) : (b &&& 0x1F).toNat = b.toNat % 32 :=
  Nat.and_two_pow_sub_one_eq_mod _ 5

namespace ConnectRequest

theorem toNat_hopIncrement (r : ConnectRequest) : r.hopIncrement.toNat = r.hopSca.toNat % 32 :=
  toNat_and_low r.hopSca

theorem toNat_sleepClockAccuracy (r : ConnectRequest) :
    r.sleepClockAccuracy.toNat = r.hopSca.toNat / 32 := by
  rw [sleepClockAccuracy, UInt8.toNat_shiftRight]
  exact Nat.shiftRight_eq_div_pow _ 5

theorem toNat_crcInit (r : ConnectRequest) : r.crcInit.toNat = r.crc.toNat := by
  have := r.crc.isLt
  rw [crcInit, UInt32.toNat_ofNat']
  omega

end ConnectRequest

namespace ConnectParams

theorem toNat_hopSca (p : ConnectParams) : p.toRequest.hopSca.toNat =
    32 * (p.sleepClockAccuracy.toNat % 8) + p.hopIncrement.toNat % 32 := by
  have low : p.hopIncrement.toNat &&& 0x1F = p.hopIncrement.toNat % 32 := toNat_and_low _
  have high : p.sleepClockAccuracy.toNat <<< 5 % 2 ^ 8 =
      2 ^ 5 * (p.sleepClockAccuracy.toNat % 8) := by
    rw [Nat.shiftLeft_eq]
    omega
  have apart : p.hopIncrement.toNat % 32 < 2 ^ 5 := Nat.mod_lt _ (by decide)
  calc p.toRequest.hopSca.toNat
      = p.hopIncrement.toNat &&& 0x1F ||| p.sleepClockAccuracy.toNat <<< 5 % 2 ^ 8 := rfl
    _ = 2 ^ 5 * (p.sleepClockAccuracy.toNat % 8) ||| p.hopIncrement.toNat % 32 := by
      rw [low, high, Nat.or_comm]
    _ = 32 * (p.sleepClockAccuracy.toNat % 8) + p.hopIncrement.toNat % 32 :=
      (Nat.two_pow_add_eq_or_of_lt apart _).symm

theorem channelMap_toRequest (p : ConnectParams) : p.toRequest.channelMap = p.channelMap := by
  show (⟨(p.channelMap.bits.setWidth 40).setWidth 37⟩ : ChannelMap) = p.channelMap
  rw [BitVec.setWidth_setWidth_of_le _ (by decide), BitVec.setWidth_eq]

end ConnectParams

theorem ConnectionContext.ofRequest_of_lt {r : ConnectRequest} (few : r.channelMap.count < 2) :
    ofRequest r = .error (.degenerateChannelMap r.channelMap.count) := by
  rw [ofRequest, UsedChannels.ofMap_of_lt few]
  rfl

/-- The connection is opened with the parameters, as far as these fit their fields on the air. -/
structure ConnectionContext.Carries (c : ConnectionContext) (p : ConnectParams) : Prop where
  initiator : c.initiator = p.initiator
  advertiser : c.advertiser = p.advertiser
  accessAddress : c.accessAddress = p.accessAddress
  crcInit : c.crcInit.toNat = p.crcInit.toNat % 0x1000000
  winSize : c.winSize = p.winSize
  winOffset : c.winOffset = p.winOffset
  interval : c.interval = p.interval
  latency : c.latency = p.latency
  timeout : c.timeout = p.timeout
  hopIncrement : c.hopIncrement.toNat = p.hopIncrement.toNat % 32
  sleepClockAccuracy : c.sleepClockAccuracy.toNat = p.sleepClockAccuracy.toNat % 8
  channelMap : c.used.map = p.channelMap

namespace ConnectParams

theorem exists_carries {p : ConnectParams} (several : 2 ≤ p.channelMap.count) :
    ∃ c, ConnectionContext.ofRequest p.toRequest = .ok c ∧ c.Carries p := by
  have used : UsedChannels.ofMap p.toRequest.channelMap =
      .ok ⟨p.channelMap, by rwa [ChannelMap.length_channels]⟩ := by
    rw [channelMap_toRequest]
    exact UsedChannels.ofMap_of_le several
  have crcInit : p.toRequest.crcInit.toNat = p.crcInit.toNat % 0x1000000 :=
    p.toRequest.toNat_crcInit.trans (BitVec.toNat_ofNat ..)
  have hopIncrement : p.toRequest.hopIncrement.toNat = p.hopIncrement.toNat % 32 := by
    rw [ConnectRequest.toNat_hopIncrement, toNat_hopSca]
    omega
  have sleepClockAccuracy :
      p.toRequest.sleepClockAccuracy.toNat = p.sleepClockAccuracy.toNat % 8 := by
    rw [ConnectRequest.toNat_sleepClockAccuracy, toNat_hopSca]
    omega
  refine ⟨_, by rw [ConnectionContext.ofRequest, used]; rfl, ?_⟩
  exact
    { initiator := rfl, advertiser := rfl, accessAddress := rfl, crcInit, winSize := rfl,
      winOffset := rfl, interval := rfl, latency := rfl, timeout := rfl, hopIncrement,
      sleepClockAccuracy, channelMap := rfl }

/-- Whatever the parameters are, a request is made from them that fits a frame and is read from it,
and what is read opens a connection with these parameters, if they have channels to hop over. -/
theorem connection_carries_params (p : ConnectParams) (txAdd : Bool) {buffer : Bytes}
    (room : headerSize + ConnectRequest.size ≤ buffer.length) :
    ∃ frame header request, frame.length = headerSize + ConnectRequest.size ∧
      Frame.encodeAdvertising .connectReq txAdd p.toRequest.toBytes buffer =
        (.ok frame.length, frame ++ buffer.drop frame.length) ∧
      (∀ stale, AdvPdu.ofBytes (frame ++ stale) = .ok (.connectRequest header request)) ∧
      (2 ≤ p.channelMap.count →
        ∃ c, ConnectionContext.ofRequest request = .ok c ∧ c.Carries p) ∧
      (p.channelMap.count < 2 → ConnectionContext.ofRequest request =
        .error (.degenerateChannelMap p.channelMap.count)) := by
  have size := p.toRequest.length_toBytes
  have length : ((Frame.advHeader .connectReq txAdd ConnectRequest.size).bytes ++
      p.toRequest.toBytes).length = headerSize + ConnectRequest.size := by
    rw [Frame.length_header_append rfl, size]
  refine ⟨_, _, p.toRequest, length, ?_,
    AdvPdu.ofBytes_append_of_ok (AdvPdu.ofBytes_connectRequest txAdd p.toRequest), exists_carries, ?_⟩
  · rw [Frame.encodeAdvertising_of_le _ _ _ (by rw [size]; decide), Frame.write_of_le rfl (size ▸ room),
      length, size]
  · intro few
    rw [← p.channelMap_toRequest] at few ⊢
    exact ConnectionContext.ofRequest_of_lt few

def oversized (channelMap : ChannelMap) : ConnectParams where
  initiator := .ofAir [1, 2, 3, 4, 5, 6]
  advertiser := .ofAir [7, 8, 9, 10, 11, 12]
  accessAddress := 0x50654b3a
  crcInit := 0xFF123456
  winSize := 2
  winOffset := 4
  interval := 24
  latency := 0
  timeout := 20
  channelMap
  hopIncrement := 0xE7
  sleepClockAccuracy := 0xFD

/-- The three are cut without a change to any other, and with a single channel no connection is
opened. -/
theorem connection_carries_params_of_oversized :
    (∃ frame header request c,
      Frame.encodeAdvertising .connectReq true (oversized (.ofChannels [0, 36])).toRequest.toBytes
        (Frame.blank 38) = (.ok 36, frame ++ [0, 0]) ∧
      AdvPdu.ofBytes (frame ++ [0, 0]) = .ok (.connectRequest header request) ∧
      ConnectionContext.ofRequest request = .ok c ∧ c.hopIncrement.toNat = 7 ∧
      c.sleepClockAccuracy.toNat = 5 ∧ c.crcInit.toNat = 0x123456 ∧ c.used.toList = [0, 36]) ∧
    ∃ frame header request,
      Frame.encodeAdvertising .connectReq true (oversized (.ofChannels [36])).toRequest.toBytes
        (Frame.blank 38) = (.ok 36, frame ++ [0, 0]) ∧
      AdvPdu.ofBytes (frame ++ [0, 0]) = .ok (.connectRequest header request) ∧
      ConnectionContext.ofRequest request = .error (.degenerateChannelMap 1) := by
  have room : headerSize + ConnectRequest.size ≤ (Frame.blank 38).length := by decide
  constructor
  · obtain ⟨frame, header, request, length, written, read, opens, -⟩ :=
      connection_carries_params (oversized (.ofChannels [0, 36])) true room
    obtain ⟨c, opened, carries⟩ := opens (by decide)
    have used : c.used.toList = [0, 36] := by
      rw [UsedChannels.toList, carries.channelMap]
      decide
    rw [length] at written
    exact ⟨frame, header, request, c, written, read _, opened, carries.hopIncrement.trans (by decide),
      carries.sleepClockAccuracy.trans (by decide), carries.crcInit.trans (by decide), used⟩
  · obtain ⟨frame, header, request, length, written, read, -, refused⟩ :=
      connection_carries_params (oversized (.ofChannels [36])) true room
    have one : (oversized (.ofChannels [36])).channelMap.count = 1 := by decide
    rw [length] at written
    rw [one] at refused
    exact ⟨frame, header, request, written, read _, refused (by decide)⟩

end ConnectParams

namespace Bytes

theorem modify_append_right (first rest : Bytes) (i : Nat) (f : UInt8 → UInt8) :
    (first ++ rest).modify (first.length + i) f = first ++ rest.modify i f := by
  induction first with
  | nil => rw [List.nil_append, List.nil_append, List.length_nil, Nat.zero_add]
  | cons b first ih =>
    rw [List.cons_append, List.length_cons, Nat.add_right_comm, List.modify_succ_cons, ih]
    rfl

theorem modify_ofNatLE (n : Nat) (rest : Bytes) :
    (ofNatLE 5 n ++ rest).modify 4 (· &&& 0x1F) = ofNatLE 5 (n % 0x2000000000) ++ rest := by
  -- The last of the five bytes alone holds what is lost above the 37th bit.
  simp only [ofNatLE, List.cons_append, List.modify_succ_cons, List.modify_zero_cons,
    List.cons.injEq, List.nil_append, and_true, ← UInt8.toNat_inj, toNat_and_low,
    UInt8.toNat_ofNat']
  omega

end Bytes

namespace ConnectRequest

/-- The payload with the reserved bits cleared: the three high ones of the channel map's last byte. -/
def withoutReserved (q : Bytes) : Bytes := q.modify 32 (· &&& 0x1F)

def SameOutsideReserved (q q' : Bytes) : Prop :=
  ∀ i j, ¬(i = 32 ∧ 5 ≤ j) → (q.getD i 0).toNat.testBit j = (q'.getD i 0).toNat.testBit j

theorem testBit_withoutReserved (q : Bytes) (i j : Nat) :
    ((withoutReserved q).getD i 0).toNat.testBit j =
      ((q.getD i 0).toNat.testBit j && !decide (i = 32 ∧ 5 ≤ j)) := by
  rw [withoutReserved, List.getD_eq_getElem?_getD, List.getD_eq_getElem?_getD]
  by_cases last : i = 32
  · rw [last, List.getElem?_modify_eq]
    cases q[32]? with
    | none => simp
    | some b =>
      have low : (b &&& 0x1F).toNat.testBit j = (b.toNat.testBit j && decide (j < 5)) := by
        rw [UInt8.toNat_and, Nat.testBit_and]
        exact congrArg _ (Nat.testBit_two_pow_sub_one 5 j)
      simp only [true_and, ← decide_not, Nat.not_le]
      exact low
  · rw [List.getElem?_modify_ne _ _ (Ne.symm last)]
    simp [last]

theorem withoutReserved_eq_iff {q q' : Bytes} (same : q.length = q'.length) :
    withoutReserved q = withoutReserved q' ↔ SameOutsideReserved q q' := by
  constructor
  · intro h i j other
    have bit := testBit_withoutReserved q i j
    rw [h, testBit_withoutReserved] at bit
    simpa [other] using bit.symm
  · intro h
    apply List.ext_getElem
    · rw [withoutReserved, withoutReserved, List.length_modify, List.length_modify, same]
    intro i _ _
    rw [List.getElem_eq_getD 0, List.getElem_eq_getD 0]
    apply UInt8.toNat_inj.mp
    apply Nat.eq_of_testBit_eq
    intro j
    rw [testBit_withoutReserved, testBit_withoutReserved]
    by_cases reserved : i = 32 ∧ 5 ≤ j
    · simp [reserved]
    · rw [h i j reserved]

theorem exists_toBytes_eq (r : ConnectRequest) : ∃ before : Bytes, before.length = 28 ∧
    ∀ map, toBytes { r with mapField := map } =
      before ++ (Bytes.ofNatLE 5 map.toNat ++ [r.hopSca]) := by
  -- What stands before the map is read off the layout first, then its length is known.
  apply Exists.intro
  apply And.intro
  case right =>
    intro map
    simp only [toBytes]
    exact List.append_assoc _ _ _
  case left => simp

def cleared (r : ConnectRequest) : ConnectRequest :=
  { r with mapField := r.channelMap.bits.setWidth 40 }

theorem toBytes_cleared (r : ConnectRequest) : r.cleared.toBytes = withoutReserved r.toBytes := by
  obtain ⟨before, length, split⟩ := r.exists_toBytes_eq
  have map : (r.channelMap.bits.setWidth 40).toNat = r.mapField.toNat % 0x2000000000 := by
    rw [channelMap, BitVec.toNat_setWidth_of_le (by decide), BitVec.toNat_setWidth]
  calc r.cleared.toBytes
      = before ++ (Bytes.ofNatLE 5 (r.mapField.toNat % 0x2000000000) ++ [r.hopSca]) := by
        rw [cleared, split, map]
    _ = (before ++ (Bytes.ofNatLE 5 r.mapField.toNat ++ [r.hopSca])).modify (before.length + 4)
          (· &&& 0x1F) := by
        rw [Bytes.modify_append_right, Bytes.modify_ofNatLE]
    _ = withoutReserved r.toBytes := by rw [← split, length, withoutReserved]

def params (r : ConnectRequest) : ConnectParams where
  initiator := r.initiator
  advertiser := r.advertiser
  accessAddress := r.accessAddress
  crcInit := r.crcInit
  winSize := r.winSize
  winOffset := r.winOffset
  interval := r.interval
  latency := r.latency
  timeout := r.timeout
  channelMap := r.channelMap
  hopIncrement := r.hopIncrement
  sleepClockAccuracy := r.sleepClockAccuracy

theorem toRequest_params (r : ConnectRequest) : r.params.toRequest = r.cleared := by
  have crc : r.params.toRequest.crc = r.crc := by
    show BitVec.ofNat 24 r.crcInit.toNat = r.crc
    rw [toNat_crcInit, BitVec.ofNat_toNat, BitVec.setWidth_eq]
  have hopSca : r.params.toRequest.hopSca = r.hopSca := by
    have := r.hopSca.toNat_lt
    apply UInt8.toNat_inj.mp
    rw [ConnectParams.toNat_hopSca]
    show 32 * (r.sleepClockAccuracy.toNat % 8) + r.hopIncrement.toNat % 32 = r.hopSca.toNat
    rw [toNat_hopIncrement, toNat_sleepClockAccuracy]
    omega
  have rest : r.params.toRequest =
      { r.cleared with crc := r.params.toRequest.crc, hopSca := r.params.toRequest.hopSca } := rfl
  rw [rest, crc, hopSca]
  rfl

theorem params_cleared (r : ConnectRequest) : r.cleared.params = r.params := by
  have map : r.cleared.channelMap = r.channelMap := r.params.channelMap_toRequest
  have rest : r.cleared.params = { r.params with channelMap := r.cleared.channelMap } := rfl
  rw [rest, map]
  rfl

theorem toBytes_injective {r r' : ConnectRequest} (h : r.toBytes = r'.toBytes) : r = r' := by
  have read := r.ofBytes?_toBytes
  rw [h, r'.ofBytes?_toBytes] at read
  exact (Option.some.inj read).symm

theorem params_eq_iff {r r' : ConnectRequest} :
    r.params = r'.params ↔ withoutReserved r.toBytes = withoutReserved r'.toBytes := by
  rw [← toBytes_cleared, ← toBytes_cleared]
  constructor
  · intro same
    rw [← toRequest_params, same, toRequest_params]
  · intro same
    rw [← params_cleared r, toBytes_injective same, params_cleared r']

/-- Every payload of the right size is made again from its parameters but for the reserved bits,
and these are all that the parameters do not tell apart. -/
theorem params_determine_payload (q : Bytes) (whole : q.length = size) :
    ∃ r, ofBytes? q = some r ∧ r.params.toRequest.toBytes = withoutReserved q ∧
      ∀ q' r', ofBytes? q' = some r' → (r'.params = r.params ↔ SameOutsideReserved q' q) := by
  have read : ofBytes? q = some _ := if_pos whole
  refine ⟨_, read, ?_, ?_⟩
  · rw [toRequest_params, toBytes_cleared, toBytes_of_ofBytes? read]
  · intro q' r' read'
    rw [params_eq_iff, toBytes_of_ofBytes? read, toBytes_of_ofBytes? read']
    exact withoutReserved_eq_iff ((ofBytes?_eq_some read').1.trans whole.symm)

/-- All bits are set. A payload that lacks a reserved one has the same parameters, a payload that
lacks the highest channel has not. -/
theorem params_determine_payload_of_ones :
    ∃ r, ofBytes? (List.replicate 34 0xFF) = some r ∧
      r.params.toRequest.toBytes = List.replicate 32 0xFF ++ [0x1F, 0xFF] ∧
      (∃ r', ofBytes? (List.replicate 32 0xFF ++ [0x7F, 0xFF]) = some r' ∧ r'.params = r.params) ∧
      ∃ r', ofBytes? (List.replicate 32 0xFF ++ [0xEF, 0xFF]) = some r' ∧ r'.params ≠ r.params := by
  obtain ⟨r, read, recovered, same⟩ := params_determine_payload (List.replicate 34 0xFF) (by decide)
  refine ⟨r, read, recovered, ⟨_, if_pos (by decide), ?_⟩, _, if_pos (by decide), ?_⟩
  · exact (same _ _ (if_pos (by decide))).mpr ((withoutReserved_eq_iff (by decide)).mp (by decide))
  · intro equal
    have agree := (same _ _ (if_pos (by decide))).mp equal
    exact absurd ((withoutReserved_eq_iff (by decide)).mpr agree) (by decide)

end ConnectRequest

end BlePeripheral

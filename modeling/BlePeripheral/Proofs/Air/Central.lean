import BlePeripheral.Air.Central
import BlePeripheral.Proofs.Ack.Exchange
import BlePeripheral.Proofs.Channel.Hops
import BlePeripheral.Proofs.Link.ConnectionEvent
import BlePeripheral.Proofs.Pdu.Frames

/-! What the simulated central offers when it is listened to, as the frames it writes and the
PDUs that these are read as. It looks for its target first; once it has met it, it only speaks on
the connection, and its sequence numbers move with what it hears alone. -/

namespace BlePeripheral

namespace Central

def Looks (c : Central) : Prop := c.phase = .scanning ∨ c.phase = .connecting

def HasMet (c : Central) : Prop := c.phase = .connected ∨ c.phase = .gone

def scanFrame (c : Central) : Bytes :=
  (Frame.advHeader .scanReq false ScanRequest.size).bytes ++
    ScanRequest.toBytes { initiator := address, advertiser := c.target }

def connectFrame (c : Central) : Bytes :=
  (Frame.advHeader .connectReq false ConnectRequest.size).bytes ++ c.params.toRequest.toBytes

def dataPdu (c : Central) (llid : Llid) (payload : Bytes) : DataPdu where
  header := (c.ack.header llid).withLength (UInt8.ofNat payload.length)
  payload

def dataFrame (c : Central) (llid : Llid) (payload : Bytes) : Bytes :=
  (c.dataPdu llid payload).header.bytes ++ payload

theorem ofBytes_scanFrame (c : Central) :
    AdvPdu.ofBytes c.scanFrame = .ok (.scanRequest (Frame.advHeader .scanReq false ScanRequest.size)
      { initiator := address, advertiser := c.target }) :=
  AdvPdu.ofBytes_scanRequest _

theorem ofBytes_connectFrame (c : Central) :
    AdvPdu.ofBytes c.connectFrame = .ok (.connectRequest
      (Frame.advHeader .connectReq false ConnectRequest.size) c.params.toRequest) :=
  AdvPdu.ofBytes_connectRequest false _

def context (c : Central) : ConnectionContext where
  initiator := address
  advertiser := c.target
  accessAddress := accessAddress
  crcInit := 0x2D6F1B
  winSize := 2
  winOffset := 4
  interval := 24
  latency := 0
  timeout := 20
  hopIncrement := 7
  sleepClockAccuracy := 0
  used := ⟨.all, by decide⟩

theorem ofRequest_params (c : Central) :
    ConnectionContext.ofRequest c.params.toRequest = .ok c.context := by
  have map : c.params.toRequest.channelMap = .all := by rfl
  have used : UsedChannels.ofMap .all = .ok c.context.used := rfl
  have crc : c.params.toRequest.crcInit = 0x2D6F1B := by rfl
  have hop : c.params.toRequest.hopIncrement = 7 := by
    show ((7 : UInt8) &&& 0x1F ||| (0 : UInt8) <<< (5 : UInt8)) &&& 0x1F = 7
    decide
  have accuracy : c.params.toRequest.sleepClockAccuracy = 0 := by
    show ((7 : UInt8) &&& 0x1F ||| (0 : UInt8) <<< (5 : UInt8)) >>> 5 = 0
    decide
  unfold ConnectionContext.ofRequest
  rw [map, used, crc, hop, accuracy]
  rfl

theorem channelAt_context (c : Central) (n : Nat) :
    c.context.used.channelAt c.context.hopIncrement n = UInt8.ofNat (7 * n % 37) := by
  have low : 7 * n % 37 < 37 := Nat.mod_lt _ (by decide)
  have used : c.context.used.contains (UInt8.ofNat (7 * n % 37)) = true := by
    show (BitVec.allOnes 37).getLsbD (UInt8.ofNat (7 * n % 37)).toNat = true
    rw [BitVec.getLsbD_allOnes, UInt8.toNat_ofNat', decide_eq_true_eq,
      Nat.mod_eq_of_lt (Nat.lt_trans low (by decide))]
    exact low
  have hop : n * c.context.hopIncrement.toNat = 7 * n := Nat.mul_comm n 7
  rw [UsedChannels.channelAt, hop, UsedChannels.remap, if_pos used]

theorem ofBytes_dataFrame (c : Central) (llid : Llid) {payload : Bytes}
    (fits : payload.length ≤ maxDataPayload) :
    DataPdu.ofBytes (c.dataFrame llid payload) = .ok (c.dataPdu llid payload) := by
  refine DataPdu.ofBytes_append fits ?_
  rw [maxDataPayload] at fits
  show (UInt8.ofNat payload.length).toNat = payload.length
  rw [UInt8.toNat_ofNat']
  omega

theorem advertisingReply_of_scanning {c : Central} (h : c.phase = .scanning) :
    c.advertisingReply =
      ({ delivery := some ⟨c.replyDelay, c.scanFrame⟩ }, { c with phase := .connecting }) := by
  have length := ScanRequest.length_toBytes { initiator := address, advertiser := c.target }
  have written := Frame.written_encodeAdvertising .scanReq false (by rw [length]; decide)
    (show _ ≤ (Frame.blank maxPduSize).length by rw [length, Frame.length_blank]; decide)
  rw [length] at written
  simp only [advertisingReply, h, delivery?, written]
  rfl

theorem advertisingReply_of_connecting {c : Central} (h : c.phase = .connecting) :
    c.advertisingReply = ({ delivery := some ⟨c.replyDelay, c.connectFrame⟩ }, c) := by
  have length := c.params.toRequest.length_toBytes
  have written := Frame.written_encodeAdvertising .connectReq false (by rw [length]; decide)
    (show _ ≤ (Frame.blank maxPduSize).length by rw [length, Frame.length_blank]; decide)
  rw [length] at written
  simp only [advertisingReply, h, delivery?, written]
  rfl

theorem advertisingReply_of_hasMet {c : Central} (h : c.HasMet) : c.advertisingReply = ({}, c) := by
  obtain met | met := h <;> simp only [advertisingReply, met]

theorem sendData_eq (c : Central) (llid : Llid) {payload : Bytes}
    (fits : payload.length ≤ maxDataPayload) :
    c.sendData llid payload =
      ({ delivery := some ⟨c.replyDelay, c.dataFrame llid payload⟩ }, { c with sent := c.sent + 1 }) := by
  have room : headerSize + payload.length ≤ (Frame.blank maxPduSize).length := by
    rw [Frame.length_blank, maxPduSize]
    omega
  simp only [sendData, delivery?, Frame.written_encodeData fits room]
  rfl

theorem dataReply_of_gone {c : Central} (h : c.phase = .gone) : c.dataReply = ({}, c) := by
  simp only [dataReply, h, reduceCtorEq, if_false, if_true]

theorem dataReply_of_busy {c : Central} (stays : c.phase = .connecting ∨ c.phase = .connected)
    (busy : c.isDone = false) :
    c.dataReply = ({ delivery := some ⟨c.replyDelay, c.dataFrame .dataContinue []⟩ },
      { c with phase := .connected, sent := c.sent + 1 }) := by
  have empty : ([] : Bytes).length ≤ maxDataPayload := by decide
  obtain ⟨target, replyDelay, dropAfter, terminates, phase, ack, sent⟩ := c
  have busy' (phase : CentralPhase) :
      isDone ⟨target, replyDelay, dropAfter, terminates, phase, ack, sent⟩ = false := busy
  obtain rfl | rfl := stays
  · simp only [dataReply, if_true, reduceCtorEq, if_false, busy', Bool.not_false,
      sendData_eq _ _ empty]
    rfl
  · simp only [dataReply, reduceCtorEq, if_false, busy', Bool.not_false, if_true,
      sendData_eq _ _ empty]

theorem dataReply_of_done {c : Central} (stays : c.phase = .connecting ∨ c.phase = .connected)
    (done : c.isDone = true) :
    c.dataReply = if c.terminates then
      ({ delivery := some ⟨c.replyDelay, c.dataFrame .control terminatePayload⟩ },
        { c with phase := .gone, sent := c.sent + 1 })
    else ({ notices := [.centralSilent c.sent] }, { c with phase := .gone }) := by
  have short : terminatePayload.length ≤ maxDataPayload := by decide
  obtain ⟨target, replyDelay, dropAfter, terminates, phase, ack, sent⟩ := c
  have done' (phase : CentralPhase) :
      isDone ⟨target, replyDelay, dropAfter, terminates, phase, ack, sent⟩ = true := done
  obtain rfl | rfl := stays <;>
    simp only [dataReply, reduceCtorEq, if_true, if_false, done', Bool.not_true,
      Bool.false_eq_true, sendData_eq _ _ short] <;> rfl

/-- Once it asks for a connection, listening to it there brings a data PDU with its numbers or
nothing, and leaves the numbers as they are. -/
theorem dataReply_numbered {c : Central} (asks : c.phase ≠ .scanning) :
    c.dataReply.2.HasMet ∧ c.dataReply.2.ack = c.ack ∧
      ∀ delivery, c.dataReply.1.delivery = some delivery →
        ∃ llid payload, DataPdu.ofBytes delivery.bytes = .ok (c.dataPdu llid payload) := by
  have sent (llid : Llid) {payload : Bytes} (fits : payload.length ≤ maxDataPayload)
      (delivery : Delivery) (made : some ⟨c.replyDelay, c.dataFrame llid payload⟩ = some delivery) :
      ∃ llid payload, DataPdu.ofBytes delivery.bytes = .ok (c.dataPdu llid payload) := by
    cases made
    exact ⟨llid, payload, c.ofBytes_dataFrame llid fits⟩
  by_cases gone : c.phase = .gone
  · rw [dataReply_of_gone gone]
    exact ⟨.inr gone, rfl, nofun⟩
  · have stays : c.phase = .connecting ∨ c.phase = .connected := by
      cases phase : c.phase <;> simp_all
    by_cases done : c.isDone = true
    · rw [dataReply_of_done stays done]
      split
      · exact ⟨.inr rfl, rfl, sent .control (by decide)⟩
      · exact ⟨.inr rfl, rfl, nofun⟩
    · rw [Bool.not_eq_true] at done
      rw [dataReply_of_busy stays done]
      exact ⟨.inl rfl, rfl, sent .dataContinue (by decide)⟩

@[simp] theorem sn_dataPdu (c : Central) (llid : Llid) (payload : Bytes) :
    (c.dataPdu llid payload).header.sn = c.ack.transmitSeq := by
  show ((c.ack.header llid).withLength _).sn = _
  rw [AckState.header_eq_stamp, ← c.ack.sn_stamp]
  rfl

@[simp] theorem nesn_dataPdu (c : Central) (llid : Llid) (payload : Bytes) :
    (c.dataPdu llid payload).header.nesn = c.ack.nextExpected := by
  show ((c.ack.header llid).withLength _).nesn = _
  rw [AckState.header_eq_stamp, ← c.ack.nesn_stamp]
  rfl

@[simp] theorem llid_dataPdu (c : Central) (llid : Llid) (payload : Bytes) :
    (c.dataPdu llid payload).header.llid = llid :=
  c.ack.llid_header llid

theorem onListen_advertising (c : Central) (channel : UInt8) (now : Tick) :
    Peer.onListen c channel advAccessAddress now = c.advertisingReply :=
  if_pos rfl

theorem onListen_connection (c : Central) (channel : UInt8) (now : Tick) :
    Peer.onListen c channel accessAddress now = c.dataReply :=
  (if_neg (by decide)).trans (if_pos rfl)

theorem onTransmit_advertising (c : Central) (pdu : Bytes) (channel : UInt8) (now : Tick) :
    Peer.onTransmit c pdu channel advAccessAddress now = c :=
  if_neg (by decide)

theorem offer_advertising {radio : Radio Central} (tuned : radio.accessAddress = advAccessAddress)
    (channel : UInt8) : radio.offer channel = radio.peer.advertisingReply := by
  rw [Radio.offer, tuned, onListen_advertising]

theorem offer_connection {radio : Radio Central} (tuned : radio.accessAddress = accessAddress)
    (channel : UInt8) : radio.offer channel = radio.peer.dataReply := by
  rw [Radio.offer, tuned, onListen_connection]

theorem onTransmit_response (c : Central) (ack : AckState) (channel : UInt8) (now : Tick) :
    Peer.onTransmit c ack.response channel accessAddress now =
      { c with ack := c.ack.afterReceive (ack.responseHeader.withLength 0) } :=
  if_pos rfl

end Central

end BlePeripheral

import BlePeripheral.Proofs.Control.Edits
import BlePeripheral.Proofs.Link.Ends
import BlePeripheral.Proofs.Link.Windows
import BlePeripheral.Proofs.Pdu.Classification

/-! Which frames end a connection at the peer's request, told by their bytes, by the sequence number
that the link expects and by the edits of its control table; and in what order a link that is asked
for that acknowledges it and gives the connection up. -/

namespace BlePeripheral

theorem ControlOpcode.code_ofCode (c : UInt8) : (ofCode c).code = c := by
  unfold ofCode
  cases found : known.find? (fun opcode => decide (opcode.code = c)) with
  | none => rfl
  | some opcode => simpa using List.find?_some found

theorem ControlOpcode.ofCode_eq_terminateInd {c : UInt8} : ofCode c = .terminateInd ↔ c = 2 := by
  constructor
  · intro named
    rw [← code_ofCode c, named, code]
  · rintro rfl
    rfl

theorem Llid.ofCode_eq_control {c : UInt8} : ofCode c = .control ↔ c = 3 := by
  unfold ofCode
  split
  · simp_all
  · split <;> simp_all

theorem ControlPdu.ofPayload?_eq_some {payload : Bytes} {request : ControlPdu} :
    ofPayload? payload = some request ↔
      ∃ code params, payload = code :: params ∧ request = ⟨.ofCode code, params⟩ := by
  cases payload with
  | nil => simp [ofPayload?]
  | cons code params =>
    constructor
    · rintro ⟨⟩
      exact ⟨code, params, rfl, rfl⟩
    · rintro ⟨_, _, ⟨⟩, rfl⟩
      rfl

theorem ControlPdu.terminateReason?_eq_some {payload : Bytes} {request : ControlPdu} {reason : UInt8}
    (h : ofPayload? payload = some request) :
    request.terminateReason? = some reason ↔ payload[0]? = some 2 ∧ payload[1]? = some reason := by
  obtain ⟨code, params, rfl, rfl⟩ := ofPayload?_eq_some.mp h
  simp [terminateReason?, ControlOpcode.ofCode_eq_terminateInd, List.head?_eq_getElem?]

theorem AckState.newControl?_eq_some {ack : AckState} {pdu : DataPdu} {request : ControlPdu} :
    ack.newControl? pdu = some request ↔ pdu.header.llidCode = 3 ∧
      pdu.header.sn = ack.nextExpected ∧ ControlPdu.ofPayload? pdu.payload = some request := by
  simp [newControl?, isNew, DataHeader.llid, Llid.ofCode_eq_control, and_assoc, and_left_comm]

def DataPdu.payloadIn (b : Bytes) : Bytes := Bytes.slice b headerSize (declaredIn b)

/-- The frame ends the connection, given the edits that have made the control table: it is a control
PDU that has not been accepted yet, and the last edit of its opcode has registered a handler that
asks for that. -/
structure Connection.IsEndedBy (c : Connection) (edits : List ControlEdit) (b : Bytes) : Prop where
  wellFormed : DataPdu.WellFormed b
  control : b.getD 0 0 &&& 0x03 = 0x03
  new : hasFlag (b.getD 0 0) 0x08 = c.ack.nextExpected
  handled : ∃ code params opcode handler, DataPdu.payloadIn b = code :: params ∧
    ControlEdit.last? edits code = some (.register opcode handler) ∧
    handler.act ⟨.ofCode code, params⟩ c.context = .terminate

theorem Connection.isEndedBy_iff {c : Connection} {edits : List ControlEdit} {b : Bytes} :
    c.IsEndedBy edits b ↔ ∃ pdu request, DataPdu.ofBytes b = .ok pdu ∧
      c.ack.newControl? pdu = some request ∧
      ((ControlTable.ofEdits edits).dispatch request c.context).1 = .terminate := by
  constructor
  · rintro ⟨wellFormed, control, new, code, params, opcode, handler, payload, last, ends⟩
    obtain ⟨pdu, read⟩ := DataPdu.exists_ofBytes_iff.mpr wellFormed
    have views := DataPdu.views_of_ofBytes read
    obtain ⟨rest, rfl, -⟩ := DataPdu.ofBytes_eq_ok.mp read
    refine ⟨pdu, ⟨.ofCode code, params⟩, read, AckState.newControl?_eq_some.mpr ⟨control, new, ?_⟩,
      ControlTable.dispatch_eq_terminate.mpr ⟨handler, ?_, ends⟩⟩
    · exact ControlPdu.ofPayload?_eq_some.mpr ⟨code, params, views.payload.trans payload, rfl⟩
    · rw [ControlOpcode.code_ofCode]
      exact ControlTable.handler?_ofEdits_eq_some.mpr ⟨opcode, last⟩
  · rintro ⟨pdu, request, read, asks, ends⟩
    obtain ⟨control, new, payload⟩ := AckState.newControl?_eq_some.mp asks
    obtain ⟨code, params, octets, rfl⟩ := ControlPdu.ofPayload?_eq_some.mp payload
    obtain ⟨handler, entry, ends⟩ := ControlTable.dispatch_eq_terminate.mp ends
    rw [ControlOpcode.code_ofCode] at entry
    obtain ⟨opcode, last⟩ := ControlTable.handler?_ofEdits_eq_some.mp entry
    have views := DataPdu.views_of_ofBytes read
    have wellFormed := DataPdu.exists_ofBytes_iff.mp ⟨pdu, read⟩
    obtain ⟨rest, rfl, -⟩ := DataPdu.ofBytes_eq_ok.mp read
    exact ⟨wellFormed, control, new, code, params, opcode, handler,
      views.payload.symm.trans octets, last, ends⟩

namespace Link

open LinkM

variable {P : Type} [Peer P]

theorem Hears.heard_eq {c : Connection} {radio radio' radio'' : Radio P}
    {heard heard' : Option RxFrame} {i j i' j' : Nat} (h : Hears c radio heard radio' i j)
    (h' : Hears c radio heard' radio'' i' j') : heard = heard' := by
  obtain rfl := Clock.eq_of_first h.anchor h.beforeAnchor h'.anchor h'.beforeAnchor
  obtain rfl := Clock.eq_of_first h.opening h.beforeOpening h'.opening h'.beforeOpening
  exact h.window.heard_eq h'.window

theorem Reacts.of_terminated {link link' : Link} {c : Connection} {radio radio' : Radio P}
    {heard : Option RxFrame} {reason : Option UInt8} {new : List ControlPdu}
    (h : link.Reacts c radio heard (.terminated reason) link' radio' new) :
    ∃ frame pdu request sent idled, heard = some frame ∧ DataPdu.ofBytes frame.bytes = .ok pdu ∧
      c.ack.newControl? pdu = some request ∧
      (link.controls.dispatch request c.context).1 = .terminate ∧
      reason = request.terminateReason? ∧ link' = { link with state := .advertising } ∧
      radio'.journal.toList = radio.journal.toList ++
        [.transmitted c.channel (c.ack.afterFrame frame.bytes).response sent, .idled idled,
          .configured advAccessAddress advCrcInit link.config.phy] := by
  have report (heard : Option RxFrame) : c.report heard ≠ .terminated reason := by
    intro same
    have keeps := c.keepsConnection_report heard
    rw [same] at keeps
    cases keeps
  generalize ended : LinkEvent.terminated reason = event at h
  cases h with
  | stands => exact absurd ended.symm (report _)
  | lost => cases ended
  | accepted => exact absurd ended.symm (report _)
  | @terminated frame pdu n request wellFormed _ asks ends =>
    cases ended
    refine ⟨frame, pdu, request, (radio.afterReads (n + 1)).clock.time,
      (radio.afterReads (n + 1)).clock.time, rfl, wellFormed, asks, ends, rfl, rfl, ?_⟩
    simp [AckState.afterFrame_of_ofBytes _ wellFormed]

/-- In a connection event in which a frame has come in, or none, the step ends, and it reports the
connection as ended by the peer if and only if the frame is one that ends it. Then the frame is
acknowledged before the radio is idle and back on the advertising channels, and a reason is reported
if the frame gives one. -/
theorem terminated_exactly_on_request {link : Link} {c : Connection} {edits : List ControlEdit}
    {w u : World P} {polls : Nat} {heard : Option RxFrame} (connected : link.state = .connected c)
    (edited : link.controls = .ofEdits edits) (hears : hear c { w with polls } = .ok heard u) :
    (1 ≤ w.radio.clock.step.toNat →
      link.config.tickRate.interFrameSpace.toNat + w.radio.clock.step.toNat ≤ 4294967296 →
      Ends link.step w) ∧
    ∀ event link' w', link.Step w event link' w' →
      w'.radio.frames = w.radio.frames ++ heard.toList ∧
      ((∃ reason, event = .terminated reason) ↔
        ∃ frame, heard = some frame ∧ c.IsEndedBy edits frame.bytes) ∧
      ∀ reason, event = .terminated reason → ∃ frame opened sent idled, heard = some frame ∧
        (∀ code, reason = some code ↔ (DataPdu.payloadIn frame.bytes)[0]? = some 2 ∧
          (DataPdu.payloadIn frame.bytes)[1]? = some code) ∧
        link' = { link with state := .advertising } ∧
        w'.radio.journal.toList = w.radio.journal.toList ++
          [.listened c.nextEvent.channel opened, .delivered frame,
            .transmitted c.nextEvent.channel (c.ack.afterFrame frame.bytes).response sent,
            .idled idled, .configured advAccessAddress advCrcInit link.config.phy] := by
  constructor
  · intro moves room
    apply step_ends
    rw [act, connected]
    exact connectionEvent_ends_of_hear (hear_ends_of_ok hears) moves room
  · intro event link' w' made
    obtain ⟨heard', radio, new, i, j, hears', reacts, -⟩ := made.of_connected connected
    obtain ⟨⟨i', j', first⟩, -⟩ := hear_eq_ok hears
    obtain rfl := first.heard_eq hears'
    refine ⟨by rw [reacts.frames_eq, hears'.frames_eq], ?_, ?_⟩
    · constructor
      · rintro ⟨reason, rfl⟩
        obtain ⟨frame, pdu, request, _, _, rfl, wellFormed, asks, ends, -⟩ := reacts.of_terminated
        rw [edited] at ends
        exact ⟨frame, rfl, Connection.isEndedBy_iff.mpr ⟨pdu, request, wellFormed, asks, ends⟩⟩
      · rintro ⟨frame, rfl, ended⟩
        obtain ⟨pdu, request, wellFormed, asks, ends⟩ := Connection.isEndedBy_iff.mp ended
        rw [← edited] at ends
        exact ⟨_, (reacts.of_terminating wellFormed asks ends).1⟩
    · rintro reason rfl
      obtain ⟨frame, pdu, request, sent, idled, rfl, wellFormed, asks, -, told, left, reaction⟩ :=
        reacts.of_terminated
      obtain ⟨log, hearing, logged⟩ := hears'.log_eq
      cases logged with
      | frame opened =>
        refine ⟨frame, opened, sent, idled, rfl, ?_, left, ?_⟩
        · intro code
          have payload := (DataPdu.views_of_ofBytes wellFormed).payload
          rw [told, DataPdu.payloadIn, ← payload]
          exact ControlPdu.terminateReason?_eq_some (AckState.newControl?_eq_some.mp asks).2.2
        · rw [reaction, hearing, List.append_assoc]
          rfl

/-- A handler that has been replaced under another spelling of its opcode, and one that has been
taken away. -/
theorem terminated_exactly_on_request_of_edits :
    ∃ (link : Link) (c : Connection) (w u : World ScriptedPeer) (frame : RxFrame),
      link.state = .connected c ∧
      link.controls = .ofEdits [.register .terminateInd (.always .keepConnection),
        .register (.unknown 0x02) .terminateOnRequest, .register .pingReq .terminateOnRequest,
        .unregister (.unknown 0x12)] ∧
      hear c { w with polls := 200 } = .ok (some frame) u ∧
      frame.bytes = [0x0b, 2, 0x02, 0x13] ∧ Ends link.step w ∧
      ∀ event link' w', link.Step w event link' w' →
        event = .terminated (some 0x13) ∧ link'.state = .advertising := by
  have passes : testStart (.ofEdits [.register .terminateInd (.always .keepConnection),
        .register (.unknown 0x02) .terminateOnRequest, .register .pingReq .terminateOnRequest,
        .unregister (.unknown 0x12)])
      [some ⟨100, [0x01, 0]⟩, some ⟨100, [0x0b, 2, 0x02, 0x13]⟩] 0 (fun link w =>
        LinkM.test link.step { w with polls := 10 } fun outcome w =>
          LinkM.test outcome.2.step { w with polls := 10 } fun outcome w =>
            outcome.2.state.isConnected && outcome.2.state.connection?.all fun c =>
              c.ack.nextExpected && w.radio.clock.step = 100 &&
                outcome.2.config.tickRate.interFrameSpace = 150 &&
                LinkM.test (hear c) { w with polls := 200 } fun heard _ =>
                  heard.isSome && heard.all fun frame =>
                    frame.bytes = [0x0b, 2, 0x02, 0x13]) = true := by
    decide +kernel
  obtain ⟨initial, w₀, started, passes⟩ := start_of_test passes
  obtain ⟨_, second, w₁, requests, passes⟩ := Step.of_test passes
  obtain ⟨_, link, w, connects, passes⟩ := Step.of_test passes
  simp only [Bool.and_eq_true] at passes
  obtain ⟨connected, passes⟩ := passes
  obtain ⟨c, connected⟩ := LinkState.exists_of_isConnected connected
  simp only [connected, LinkState.connection?, Option.all_some, Bool.and_eq_true,
    decide_eq_true_eq] at passes
  obtain ⟨⟨⟨expected, step⟩, space⟩, passes⟩ := passes
  obtain ⟨heard, u, hears, passes⟩ := LinkM.eq_ok_of_test passes
  rw [Bool.and_eq_true] at passes
  obtain ⟨frame, rfl⟩ := Option.isSome_iff_exists.mp passes.1
  have bytes : frame.bytes = [0x0b, 2, 0x02, 0x13] := of_decide_eq_true passes.2
  have edited := connects.setup_eq.2.2.trans requests.setup_eq.2.2
  obtain ⟨_, -, rfl, -⟩ := start_eq_ok.mp started
  obtain ⟨ends, reports⟩ := terminated_exactly_on_request connected edited hears
  refine ⟨link, c, w, u, frame, connected, edited, hears, bytes, ?_, ?_⟩
  · apply ends <;> simp only [step, space] <;> decide
  · intro event link' w' made
    obtain ⟨-, terminated, told⟩ := reports event link' w' made
    obtain ⟨reason, rfl⟩ : ∃ reason, event = .terminated reason := by
      refine terminated.mpr ⟨frame, rfl, ?_⟩
      rw [bytes]
      exact ⟨⟨by decide, by decide, by decide⟩, rfl, expected.symm, 0x02, [0x13], _, _, rfl, rfl, rfl⟩
    obtain ⟨_, _, _, _, ⟨⟩, reason, left, -⟩ := told reason rfl
    rw [bytes] at reason
    rw [(reason 0x13).mpr ⟨rfl, rfl⟩, left]
    exact ⟨rfl, rfl⟩

end Link

end BlePeripheral

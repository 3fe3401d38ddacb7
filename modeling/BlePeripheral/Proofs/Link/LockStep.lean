import BlePeripheral.Proofs.Air.Central
import BlePeripheral.Proofs.Link.Walk
import BlePeripheral.Proofs.Link.Windows

/-! A link and the simulated central keep in step. The central moves its sequence numbers while
the link's response is sent, in the middle of the link's step, so between two steps both sides
have counted the same exchanges, whatever has been lost before. -/

namespace BlePeripheral

namespace AckState

/-- The central numbers its next PDU as the link expects it, and expects the one after the link's
last. -/
structure InStep (central link : AckState) : Prop where
  sends : central.transmitSeq = link.nextExpected
  expects : central.nextExpected = !link.transmitSeq

theorem sn_response (ack : AckState) : (ack.responseHeader.withLength 0).sn = ack.transmitSeq :=
  ack.sn_stamp _

theorem nesn_response (ack : AckState) :
    (ack.responseHeader.withLength 0).nesn = ack.nextExpected :=
  ack.nesn_stamp _

theorem InStep.exchange {central link : AckState} {pdu : DataHeader} (h : InStep central link)
    (sn : pdu.sn = central.transmitSeq) (nesn : pdu.nesn = central.nextExpected) :
    link.isNew pdu = true ∧
      InStep (central.afterReceive ((link.afterReceive pdu).responseHeader.withLength 0))
        (link.afterReceive pdu) := by
  obtain ⟨sends, expects⟩ := h
  rw [sends] at sn
  rw [expects] at nesn
  have moved : link.afterReceive pdu = ⟨!link.transmitSeq, !link.nextExpected⟩ := by
    simp [afterReceive, isNew, sn, nesn]
  rw [moved]
  refine ⟨by simp [isNew, sn], ?_, ?_⟩
  · simp [afterReceive, nesn_response, sends]
  · simp [afterReceive, isNew, sn_response, expects]

/-- The first exchange of a connection, in which the link has sent nothing before its response. -/
theorem InStep.first {pdu : DataHeader} (sn : pdu.sn = false) (nesn : pdu.nesn = false) :
    InStep (({} : AckState).afterReceive
        ((({} : AckState).afterReceive pdu).responseHeader.withLength 0))
      (({} : AckState).afterReceive pdu) := by
  have moved : ({} : AckState).afterReceive pdu = ⟨false, true⟩ := by
    simp [afterReceive, isNew, sn, nesn]
  rw [moved]
  constructor
  · simp [afterReceive, nesn_response]
  · simp [afterReceive, isNew, sn_response]

end AckState

namespace Link

/-- What a link and the central know of each other between two steps, and how many connections
the central may still ask for. -/
inductive Meets : LinkState → Central → Nat → Prop
  | looking {p : Central} (looks : p.Looks) (fresh : p.ack = {}) : Meets .advertising p 1
  | parted {p : Central} (met : p.HasMet) : Meets .advertising p 0
  | asked {c : Connection} {p : Central} (asks : p.phase = .connecting) (fresh : p.ack = {})
      (begins : c.ack = {}) (addressed : c.context.accessAddress = Central.accessAddress) :
      Meets (.connectRequest c) p 0
  | inStep {c : Connection} {p : Central} (met : p.HasMet)
      (addressed : c.context.accessAddress = Central.accessAddress)
      (inStep : AckState.InStep p.ack c.ack) : Meets (.connected c) p 0

theorem requested?_scanFrame (link : Link) (p : Central) : link.requested? p.scanFrame = none := by
  rw [requested?, p.ofBytes_scanFrame]

theorem addressed_of_requested {link : Link} {p : Central} {context : ConnectionContext}
    (h : link.requested? p.connectFrame = some context) :
    context.accessAddress = Central.accessAddress := by
  obtain ⟨header, request, read, -, -, made⟩ := requested?_eq_some.mp h
  rw [p.ofBytes_connectFrame] at read
  cases read
  obtain ⟨-, same⟩ := ConnectionContext.ofRequest_eq_ok made
  rw [same]
  rfl

theorem advertisement_peer (link : Link) {radio : Radio Central}
    (tuned : radio.accessAddress = advAccessAddress) :
    (link.advertisement radio).peer = radio.peer := by
  show Peer.onTransmit radio.peer _ _ radio.accessAddress _ = _
  rw [tuned, Central.onTransmit_advertising]

theorem offer_advertisement (link : Link) {radio : Radio Central}
    (tuned : radio.accessAddress = advAccessAddress) :
    (link.advertisement radio).offer (advChannel link.advIndex) = radio.peer.advertisingReply := by
  rw [Central.offer_advertising (by exact tuned), link.advertisement_peer tuned]

theorem Advertises.central {link link' : Link} {radio radio' : Radio Central}
    {heard : Option RxFrame} {event : LinkEvent}
    (h : link.Advertises radio heard event link' radio')
    (tuned : radio.accessAddress = advAccessAddress) :
    (heard = none ∧ radio'.peer = radio.peer) ∨
      (radio'.peer = radio.peer.advertisingReply.2 ∧ ∀ frame, heard = some frame →
        ∃ delivery, radio.peer.advertisingReply.1.delivery = some delivery ∧
          frame.bytes = delivery.bytes) := by
  have sent := link.advertisement_peer tuned
  have offer := link.offer_advertisement tuned
  have listening : (link.listening radio).peer = radio.peer.advertisingReply.2 := by
    rw [← offer]
    rfl
  cases h with
  | broadcast => exact .inl ⟨rfl, sent⟩
  | silence listens window =>
    rw [window.peer_eq, listening]
    exact .inr ⟨rfl, nofun⟩
  | @answered frame after _ _ _ listens window answers =>
    refine .inr ⟨?_, ?_⟩
    · have same : after.peer = radio.peer.advertisingReply.2 := by
        rw [window.peer_eq, listening]
      have tuned' : after.accessAddress = advAccessAddress := by
        rw [window.restsAt.tuned]
        exact tuned
      cases answers with
      | connection => exact same
      | scanResponse scanner n =>
        show Peer.onTransmit after.peer _ _ after.accessAddress _ = _
        rw [tuned', Central.onTransmit_advertising, same]
      | nothing => exact same
    · rintro _ ⟨⟩
      rw [← offer]
      exact window.offered rfl

theorem Advertises.meets {link link' : Link} {radio radio' : Radio Central}
    {heard : Option RxFrame} {event : LinkEvent} {left : Nat}
    (h : link.Advertises radio heard event link' radio')
    (tuned : radio.accessAddress = advAccessAddress) (advertising : link.state = .advertising)
    (meets : Meets .advertising radio.peer left) :
    (link'.state = .advertising ∧ Meets .advertising radio'.peer left) ∨
      ∃ c, left = 1 ∧ link'.state = .connectRequest c ∧ Meets (.connectRequest c) radio'.peer 0 := by
  have stays (nothing : (heard.bind fun frame => link.requested? frame.bytes) = none) :
      link'.state = .advertising := by
    rw [h.link_eq, nothing]
    exact advertising
  obtain ⟨rfl, same⟩ | ⟨after, offered⟩ := h.central tuned
  · rw [same]
    exact .inl ⟨stays rfl, meets⟩
  rw [after]
  cases meets with
  | looking looks fresh =>
    obtain scanning | connecting := looks
    · rw [Central.advertisingReply_of_scanning scanning] at offered ⊢
      refine .inl ⟨stays ?_, .looking (.inr rfl) fresh⟩
      rw [Option.bind_eq_none_iff]
      intro frame came
      obtain ⟨delivery, offer, bytes⟩ := offered frame came
      cases offer
      rw [bytes, requested?_scanFrame]
    · rw [Central.advertisingReply_of_connecting connecting] at offered ⊢
      cases asked : heard.bind fun frame => link.requested? frame.bytes with
      | none => exact .inl ⟨stays asked, .looking (.inr connecting) fresh⟩
      | some context =>
        obtain ⟨frame, came, requested⟩ := Option.bind_eq_some_iff.mp asked
        obtain ⟨delivery, offer, bytes⟩ := offered frame came
        cases offer
        rw [bytes] at requested
        refine .inr ⟨_, rfl, by rw [h.link_eq, asked]; rfl, ?_⟩
        exact .asked connecting fresh rfl (addressed_of_requested requested)
  | parted met =>
    rw [Central.advertisingReply_of_hasMet met] at offered ⊢
    refine .inl ⟨stays ?_, .parted met⟩
    rw [Option.bind_eq_none_iff]
    intro frame came
    obtain ⟨delivery, offer, -⟩ := offered frame came
    cases offer

theorem transmit_response {radio : Radio Central} {p : Central}
    (tuned : radio.accessAddress = Central.accessAddress) (hears : radio.peer = p) (ack : AckState)
    (channel : UInt8) : (radio.transmit channel ack.response).peer =
      { p with ack := p.ack.afterReceive (ack.responseHeader.withLength 0) } := by
  subst hears
  show Peer.onTransmit radio.peer _ _ radio.accessAddress _ = _
  rw [tuned, Central.onTransmit_response]

theorem Establishes.central {link : Link} {c : Connection} {radio radio' : Radio Central}
    {frame : RxFrame} {n m : Nat} (h : link.Establishes c radio frame radio' n m)
    (addressed : c.context.accessAddress = Central.accessAddress) :
    (∃ delivery, radio.peer.dataReply.1.delivery = some delivery ∧ frame.bytes = delivery.bytes) ∧
      radio'.peer = { radio.peer.dataReply.2 with
        ack := radio.peer.dataReply.2.ack.afterReceive
          ((c.ack.afterFrame frame.bytes).responseHeader.withLength 0) } := by
  have offer : (radio.configure c.context.accessAddress c.context.crcInit link.config.phy).offer
      c.channel = radio.peer.dataReply := Central.offer_connection (by exact addressed) _
  have spoken := link.greeted_peer c radio frame n
  obtain ⟨delivery, offered, rfl, -⟩ := h.offered
  rw [offer] at offered spoken
  refine ⟨⟨delivery, offered, rfl⟩, ?_⟩
  rw [h.radio_eq]
  exact transmit_response (by exact addressed) (by exact spoken) _ _

theorem Establishes.meets {link : Link} {c : Connection} {radio radio' : Radio Central}
    {frame : RxFrame} {n m : Nat} (h : link.Establishes c radio frame radio' n m)
    (meets : Meets (.connectRequest c) radio.peer 0) (anchor : Tick) :
    Meets (.connected (c.established frame anchor)) radio'.peer 0 := by
  cases meets with
  | asked asks fresh begins addressed =>
    obtain ⟨met, kept, numbered⟩ := Central.dataReply_numbered (c := radio.peer) (by rw [asks]; decide)
    obtain ⟨⟨delivery, offered, bytes⟩, taken⟩ := h.central addressed
    obtain ⟨llid, payload, read⟩ := numbered delivery offered
    have ack : c.ack.afterFrame frame.bytes =
        ({} : AckState).afterReceive (radio.peer.dataPdu llid payload).header := by
      rw [begins, bytes]
      exact AckState.afterFrame_of_ofBytes _ read
    rw [taken]
    refine .inStep met addressed ?_
    show AckState.InStep _ (c.ack.afterFrame frame.bytes)
    rw [ack, kept, fresh]
    apply AckState.InStep.first
    · rw [Central.sn_dataPdu, fresh]
    · rw [Central.nesn_dataPdu, fresh]

theorem Hears.central {c : Connection} {radio radio' : Radio Central} {heard : Option RxFrame}
    {i j : Nat} (h : Hears c radio heard radio' i j)
    (tuned : radio.accessAddress = Central.accessAddress) :
    radio'.accessAddress = Central.accessAddress ∧ radio'.peer = radio.peer.dataReply.2 ∧
      ∀ frame, heard = some frame →
        ∃ delivery, radio.peer.dataReply.1.delivery = some delivery ∧
          frame.bytes = delivery.bytes := by
  have offer : (radio.afterReads (i + 1 + (j + 1))).offer c.nextEvent.channel =
      radio.peer.dataReply := Central.offer_connection (by exact tuned) _
  refine ⟨by rw [h.restsAt.tuned, tuned], ?_, ?_⟩
  · rw [h.window.peer_eq, armed, Radio.receive_peer, offer]
  · rintro frame rfl
    rw [← offer]
    exact h.window.offered rfl

theorem Reacts.central {link link' : Link} {c : Connection} {radio radio' : Radio Central}
    {heard : Option RxFrame} {event : LinkEvent} {new : List ControlPdu}
    (h : link.Reacts c radio heard event link' radio' new)
    (tuned : radio.accessAddress = Central.accessAddress) :
    ∃ ack, radio'.peer = { radio.peer with ack } := by
  cases h with
  | stands => exact ⟨radio.peer.ack, rfl⟩
  | lost => exact ⟨radio.peer.ack, rfl⟩
  | accepted => exact ⟨_, transmit_response (by exact tuned) rfl _ _⟩
  | terminated => exact ⟨_, transmit_response (by exact tuned) rfl _ _⟩

theorem Reacts.meets {link link' : Link} {c : Connection} {p : Central} {radio radio' : Radio Central}
    {heard : Option RxFrame} {event : LinkEvent} {new : List ControlPdu}
    (h : link.Reacts c radio heard event link' radio' new)
    (tuned : radio.accessAddress = Central.accessAddress) (spoken : radio.peer = p.dataReply.2)
    (offered : ∀ frame, heard = some frame →
      ∃ delivery, p.dataReply.1.delivery = some delivery ∧ frame.bytes = delivery.bytes)
    (met : p.HasMet) (addressed : c.context.accessAddress = Central.accessAddress)
    (inStep : AckState.InStep p.ack c.ack) :
    Meets link'.state radio'.peer 0 ∧
      ∀ channel llid length, event ≠ .dataReceived channel llid length true := by
  have asks : p.phase ≠ .scanning := by
    obtain phase | phase := met <;> rw [phase] <;> decide
  obtain ⟨met', kept, numbered⟩ := p.dataReply_numbered asks
  have read {frame : RxFrame} (came : heard = some frame) :
      ∃ llid payload, DataPdu.ofBytes frame.bytes = .ok (p.dataPdu llid payload) := by
    obtain ⟨delivery, offer, bytes⟩ := offered frame came
    rw [bytes]
    exact numbered delivery offer
  cases h with
  | stands vain =>
    obtain rfl | ⟨frame, defect, rfl, malformed⟩ := heardPdu?_eq_none.mp vain
    · refine ⟨?_, by simp [Connection.report]⟩
      show Meets _ radio.peer 0
      rw [spoken]
      refine .inStep met' addressed ?_
      rw [kept]
      exact inStep
    · obtain ⟨llid, payload, wellFormed⟩ := read rfl
      rw [wellFormed] at malformed
      cases malformed
  | lost =>
    refine ⟨.parted ?_, by simp⟩
    show radio.peer.HasMet
    rw [spoken]
    exact met'
  | @accepted frame pdu n wellFormed =>
    obtain ⟨llid, payload, wellFormed'⟩ := read rfl
    rw [wellFormed] at wellFormed'
    cases wellFormed'
    obtain ⟨isNew, inStep'⟩ := inStep.exchange (p.sn_dataPdu llid payload) (p.nesn_dataPdu llid payload)
    have after := c.after_of_ofBytes wellFormed
    refine ⟨?_, ?_⟩
    · rw [transmit_response (p := p.dataReply.2) (by exact tuned) (by exact spoken)]
      refine .inStep met' (by rw [after]; exact addressed) ?_
      rw [after, kept]
      exact inStep'
    · intro channel llid length same
      simp only [Connection.report, wellFormed, isNew] at same
      cases same
  | @terminated frame pdu n request wellFormed =>
    refine ⟨.parted ?_, by simp⟩
    show ((radio.afterReads (n + 1)).transmit c.channel _).peer.HasMet
    rw [transmit_response (p := p.dataReply.2) (by exact tuned) (by exact spoken)]
    exact met'

theorem Step.meets {link link' : Link} {w w' : World Central} {event : LinkEvent} {left : Nat}
    (h : link.Step w event link' w') (rest : link.AtRest w.radio)
    (meets : Meets link.state w.radio.peer left) :
    (∃ left', Meets link'.state w'.radio.peer left' ∧
      left' + (if event.isRequest then 1 else 0) ≤ left) ∧
      ∀ channel llid length, event ≠ .dataReceived channel llid length true := by
  have quiet (busy : link.state ≠ .advertising ∨ link'.state = .advertising) :
      event.isRequest = false := by
    rw [← Bool.not_eq_true]
    intro request
    obtain ⟨advertising, asked⟩ := h.next.of_isRequest request
    exact busy.elim (· advertising) asked
  have tuned := rest.rests.tuned
  cases state : link.state with
  | advertising =>
    rw [state] at meets tuned
    obtain ⟨n, heard, advertises⟩ := h.of_advertising state
    refine ⟨?_, ?_⟩
    · obtain ⟨stays, meets'⟩ | ⟨c, rfl, asked, meets'⟩ := advertises.meets tuned state meets
      · rw [stays, quiet (.inr stays)]
        exact ⟨left, meets', Nat.le_refl left⟩
      · rw [asked]
        refine ⟨0, meets', ?_⟩
        split <;> omega
    · rintro channel llid length rfl
      have connected := h.next.of_isTraffic rfl
      rw [state] at connected
      cases connected
  | connectRequest c =>
    rw [state] at meets
    have noRequest := quiet (.inl (by rw [state]; exact nofun))
    obtain ⟨frame, n, m, establishes, rfl⟩ := h.setsUp state
    cases meets with
    | asked asks fresh begins addressed =>
      rw [noRequest]
      refine ⟨⟨0, establishes.meets (.asked asks fresh begins addressed) _, Nat.le_refl 0⟩, ?_⟩
      rw [h.event_of_connectRequest state]
      exact nofun
  | connected c =>
    rw [state] at meets tuned
    have noRequest := quiet (.inl (by rw [state]; exact nofun))
    obtain ⟨heard, radio, new, i, j, hears, reacts, -⟩ := h.of_connected state
    cases meets with
    | inStep met addressed inStep =>
      have tuned : w.radio.accessAddress = Central.accessAddress := tuned.trans addressed
      obtain ⟨tuned', spoken, offered⟩ := hears.central tuned
      obtain ⟨meets', fresh⟩ := reacts.meets tuned' spoken offered met addressed inStep
      rw [noRequest]
      exact ⟨⟨0, meets', Nat.le_refl 0⟩, fresh⟩

theorem Walk.meets {link link' : Link} {w w' : World Central} {turns : List Turn} {left : Nat}
    (walk : Walk link w turns link' w') (rest : link.AtRest w.radio)
    (meets : Meets link.state w.radio.peer left) :
    (∃ left', Meets link'.state w'.radio.peer left' ∧
      left' + (turns.map Turn.event).countP LinkEvent.isRequest ≤ left) ∧
      ∀ turn ∈ turns, ∀ channel llid length,
        turn.event ≠ .dataReceived channel llid length true := by
  induction walk generalizing left with
  | nil => exact ⟨⟨left, meets, Nat.le_refl left⟩, by simp⟩
  | @cons link link₁ link' w w₁ w' event wait turns step _ ih =>
    have rest₁ := rest.later wait
    obtain ⟨⟨left₁, meets₁, cost⟩, fresh⟩ := step.meets rest₁ meets
    obtain ⟨⟨left', meets', cost'⟩, later⟩ := ih (step.atRest rest₁) meets₁
    refine ⟨⟨left', meets', ?_⟩, List.forall_mem_cons.mpr ⟨fresh, later⟩⟩
    rw [List.map_cons, List.countP_cons]
    show left' + (_ + if event.isRequest then 1 else 0) ≤ left
    omega

/-- Whatever time passes and whichever replies are lost, at each end of a step the numbers of the
central and of a connected link are those of the same exchanges. So no PDU of the central is ever
taken for a repetition, and it asks for no more than one connection. -/
theorem central_in_lock_step {config : LinkConfig} {controls : ControlTable} {clock : Clock}
    {target : DeviceAddress} {replyDelay : UInt32} {dropAfter : Option UInt32} {terminates : Bool}
    {link link' : Link} {w w' : World Central} {turns : List Turn}
    (started : start config controls
      { clock, peer := { target, replyDelay, dropAfter, terminates } } = .ok (link, w))
    (walk : Walk link w turns link' w') :
    (∀ c, link'.state = .connected c →
      w'.radio.peer.ack.transmitSeq = c.ack.nextExpected ∧
        w'.radio.peer.ack.nextExpected = !c.ack.transmitSeq) ∧
      (∀ turn ∈ turns, ∀ channel llid length,
        turn.event ≠ .dataReceived channel llid length true) ∧
      (turns.map Turn.event).countP LinkEvent.isRequest ≤ 1 := by
  have rest := atRest_of_start started
  obtain ⟨prepared, -, rfl, rfl⟩ := start_eq_ok.mp started
  obtain ⟨⟨left, meets, cost⟩, fresh⟩ := walk.meets rest (.looking (.inl rfl) rfl)
  refine ⟨?_, fresh, by omega⟩
  intro c connected
  rw [connected] at meets
  cases meets with
  | inStep met addressed inStep => exact ⟨inStep.sends, inStep.expects⟩

/-- The link is kept waiting until the window of an event has closed, and the reply is lost. -/
theorem central_in_lock_step_of_lost_reply :
    ∃ (p : Central) (link link' : Link) (w w' : World Central) (turns : List Turn) (c : Connection),
      start {} {} { clock := ⟨4294960000, 100⟩, peer := p } = .ok (link, w) ∧
      Walk link w turns link' w' ∧ link'.state = .connected c ∧ w'.radio.peer.sent = 4 ∧
      turns.map (fun turn => (turn.wait, turn.event)) =
        [(0, .ignored (some .scanReq)),
          (500000, .connectRequested Central.address Central.accessAddress 7),
          (0, .connected Central.accessAddress 7), (0, .dataReceived 14 .dataContinue 0 false),
          (40000, .eventMissed (.windowMiss 2) 1), (0, .dataReceived 28 .dataContinue 0 false)] ∧
      (∀ c, link'.state = .connected c →
        w'.radio.peer.ack.transmitSeq = c.ack.nextExpected ∧
          w'.radio.peer.ack.nextExpected = !c.ack.transmitSeq) ∧
        (∀ turn ∈ turns, ∀ channel llid length,
          turn.event ≠ .dataReceived channel llid length true) ∧
        (turns.map Turn.event).countP LinkEvent.isRequest ≤ 1 := by
  have passes : testFrom (P := Central) {} {} ⟨4294960000, 100⟩
      { target := ({} : LinkConfig).address, replyDelay := 150 }
      (testTurns 500 (fun link' w' => link'.state.isConnected && w'.radio.peer.sent = 4)
        [(0, .ignored (some .scanReq)),
          (500000, .connectRequested Central.address Central.accessAddress 7),
          (0, .connected Central.accessAddress 7), (0, .dataReceived 14 .dataContinue 0 false),
          (40000, .eventMissed (.windowMiss 2) 1),
          (0, .dataReceived 28 .dataContinue 0 false)]) = true := by
    decide +kernel
  obtain ⟨link, w, started, passes⟩ := start_of_testFrom passes
  obtain ⟨turns, link', w', walk, events, passes⟩ := Walk.of_testTurns passes
  rw [Bool.and_eq_true, decide_eq_true_eq] at passes
  obtain ⟨c, connected⟩ := LinkState.exists_of_isConnected passes.1
  exact ⟨_, link, link', w, w', turns, c, started, walk, connected, passes.2, events,
    central_in_lock_step started walk⟩

end Link

end BlePeripheral

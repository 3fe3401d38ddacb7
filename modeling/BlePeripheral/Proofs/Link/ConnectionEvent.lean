import BlePeripheral.Link.Basic
import BlePeripheral.Proofs.Air.Actions

/-! What a connection event has done when it returns. The radio listens in the window of the
event, and what is heard there decides the rest: `Link.Hears` and `Link.Reacts` say all that
later arguments need to know of the two halves, so none of them opens the actions again. -/

namespace BlePeripheral

def heardPdu? (heard : Option RxFrame) : Option DataPdu :=
  heard.bind fun frame => (DataPdu.ofBytes frame.bytes).toOption

def dataPdus (frames : List RxFrame) : List DataPdu :=
  frames.filterMap fun frame => heardPdu? (some frame)

theorem heardPdu?_of_ofBytes {frame : RxFrame} {pdu : DataPdu}
    (wellFormed : DataPdu.ofBytes frame.bytes = .ok pdu) : heardPdu? (some frame) = some pdu := by
  rw [heardPdu?, Option.bind_some, wellFormed]
  rfl

theorem heardPdu?_eq_some {heard : Option RxFrame} {pdu : DataPdu} :
    heardPdu? heard = some pdu ↔
      ∃ frame, heard = some frame ∧ DataPdu.ofBytes frame.bytes = .ok pdu := by
  rw [heardPdu?, Option.bind_eq_some_iff]
  apply exists_congr
  intro frame
  cases DataPdu.ofBytes frame.bytes <;> simp [Except.toOption]

theorem heardPdu?_eq_none {heard : Option RxFrame} :
    heardPdu? heard = none ↔
      heard = none ∨ ∃ frame defect, heard = some frame ∧
        DataPdu.ofBytes frame.bytes = .error defect := by
  cases heard with
  | none => simp [heardPdu?]
  | some frame => cases read : DataPdu.ofBytes frame.bytes <;> simp [heardPdu?, read, Except.toOption]

theorem dataPdus_toList (heard : Option RxFrame) :
    dataPdus heard.toList = (heardPdu? heard).toList := by
  cases heard with
  | none => rfl
  | some frame => cases read : heardPdu? (some frame) <;> simp [dataPdus, read]

theorem dataPdus_append (heard : Option RxFrame) (frames : List RxFrame) :
    dataPdus (heard.toList ++ frames) = (heardPdu? heard).toList ++ dataPdus frames := by
  rw [← dataPdus_toList]
  exact List.filterMap_append

def AckState.response (ack : AckState) : Bytes := (ack.responseHeader.withLength 0).bytes

namespace Connection

/-- The connection after its current event, given what was heard in the window and that it
still stands. -/
def after (c : Connection) (heard : Option RxFrame) : Connection :=
  match heard with
  | none => { c with missed := c.missed + 1 }
  | some frame =>
    match DataPdu.ofBytes frame.bytes with
    | .error _ => c
    | .ok pdu =>
      { c with ack := c.ack.afterReceive pdu.header, missed := 0, lastRx := frame.timestamp }

theorem after_of_ofBytes (c : Connection) {frame : RxFrame} {pdu : DataPdu}
    (wellFormed : DataPdu.ofBytes frame.bytes = .ok pdu) : c.after (some frame) =
      { c with ack := c.ack.afterReceive pdu.header, missed := 0, lastRx := frame.timestamp } := by
  simp only [after, wellFormed]

theorem after_of_error (c : Connection) {frame : RxFrame} {defect : FrameDefect}
    (malformed : DataPdu.ofBytes frame.bytes = .error defect) : c.after (some frame) = c := by
  simp only [after, malformed]

theorem after_eq (c : Connection) (heard : Option RxFrame) :
    ∃ ack lastRx missed, c.after heard = { c with ack, lastRx, missed } := by
  unfold after
  split
  · exact ⟨_, _, _, rfl⟩
  · split <;> exact ⟨_, _, _, rfl⟩

@[simp] theorem after_context (c : Connection) (heard : Option RxFrame) :
    (c.after heard).context = c.context := by
  obtain ⟨_, _, _, after⟩ := c.after_eq heard
  rw [after]

@[simp] theorem after_intervalTicks (c : Connection) (heard : Option RxFrame) :
    (c.after heard).intervalTicks = c.intervalTicks := by
  obtain ⟨_, _, _, after⟩ := c.after_eq heard
  rw [after]

@[simp] theorem after_window (c : Connection) (heard : Option RxFrame) :
    (c.after heard).window = c.window := by
  obtain ⟨_, _, _, after⟩ := c.after_eq heard
  rw [after]

@[simp] theorem after_supervisionTicks (c : Connection) (heard : Option RxFrame) :
    (c.after heard).supervisionTicks = c.supervisionTicks := by
  obtain ⟨_, _, _, after⟩ := c.after_eq heard
  rw [after]

@[simp] theorem after_channel (c : Connection) (heard : Option RxFrame) :
    (c.after heard).channel = c.channel := by
  obtain ⟨_, _, _, after⟩ := c.after_eq heard
  rw [after, channel, channel]

theorem after_of_vain {c : Connection} {heard : Option RxFrame} (vain : heardPdu? heard = none) :
    (c.after heard).ack = c.ack ∧ (c.after heard).lastRx = c.lastRx := by
  obtain rfl | ⟨frame, defect, rfl, read⟩ := heardPdu?_eq_none.mp vain
  · exact ⟨rfl, rfl⟩
  · rw [after_of_error c read]
    exact ⟨rfl, rfl⟩

@[simp] theorem nextEvent_lastRx (c : Connection) : c.nextEvent.lastRx = c.lastRx := rfl

@[simp] theorem nextEvent_supervisionTicks (c : Connection) :
    c.nextEvent.supervisionTicks = c.supervisionTicks := rfl

def report (c : Connection) (heard : Option RxFrame) : LinkEvent :=
  match heard with
  | none => .eventMissed (.windowMiss c.eventCounter) (c.missed + 1)
  | some frame =>
    match DataPdu.ofBytes frame.bytes with
    | .error defect => .frameDiscarded (.malformedFrame defect)
    | .ok pdu =>
      .dataReceived c.channel pdu.header.llid pdu.payload.length (!c.ack.isNew pdu.header)

theorem report_ne_connectionLost (c : Connection) (heard : Option RxFrame) (error : LinkError) :
    c.report heard ≠ .connectionLost error := by
  unfold report
  split
  · exact nofun
  · split <;> exact nofun

end Connection

namespace Link

open LinkM

variable {P : Type} [Peer P]

/-- The radio when the window of the next event opens, `i` readings after the wait for the
anchor began and `j` after that. -/
def armed (c : Connection) (radio : Radio P) (i j : Nat) : Radio P :=
  ((radio.afterReads (i + j)).receive c.nextEvent.channel).2

/-- The first half of a connection event: two waits, then listening until the window closes. -/
structure Hears (c : Connection) (radio : Radio P) (heard : Option RxFrame) (radio' : Radio P)
    (i j : Nat) : Prop where
  anchor : radio.clock.elapsedAt c.anchor c.intervalTicks i = true
  beforeAnchor : ∀ k < i, radio.clock.elapsedAt c.anchor c.intervalTicks k = false
  opening : (radio.clock.afterReads (i + 1)).elapsedAt c.nextEvent.anchor c.window.opening j = true
  beforeOpening : ∀ k < j,
    (radio.clock.afterReads (i + 1)).elapsedAt c.nextEvent.anchor c.window.opening k = false
  window : (armed c radio (i + 1) (j + 1)).Heard c.nextEvent.anchor c.window.closing heard radio'

def awaitWindow (c : Connection) : LinkM P Unit := do
  waitUntil c.anchor c.intervalTicks
  waitUntil c.nextEvent.anchor c.nextEvent.window.opening

theorem hear_eq (c : Connection) : (hear c : LinkM P (Option RxFrame)) = (do
    awaitWindow c
    receive c.nextEvent.channel
    listen c.nextEvent.anchor c.nextEvent.window.closing) := by
  simp only [hear, awaitWindow, bind_assoc]

omit [Peer P] in
theorem awaitWindow_eq_ok {c : Connection} {w u : World P} (h : awaitWindow c w = .ok () u) :
    ∃ i j rest, u = { w with radio := w.radio.afterReads (i + 1 + (j + 1)), polls := rest } ∧
      w.radio.clock.elapsedAt c.anchor c.intervalTicks i = true ∧
      (∀ k < i, w.radio.clock.elapsedAt c.anchor c.intervalTicks k = false) ∧
      (w.radio.clock.afterReads (i + 1)).elapsedAt c.nextEvent.anchor c.window.opening j = true ∧
      ∀ k < j, (w.radio.clock.afterReads (i + 1)).elapsedAt c.nextEvent.anchor c.window.opening k =
        false := by
  obtain ⟨_, v, waited, h⟩ := bind_eq_ok.mp h
  obtain ⟨i, rest, rfl, anchor, beforeAnchor⟩ := waitUntil_eq_ok waited
  obtain ⟨j, rest', rfl, opening, beforeOpening⟩ := waitUntil_eq_ok h
  exact ⟨i, j, rest', by rw [Radio.afterReads_afterReads], anchor, beforeAnchor, opening,
    beforeOpening⟩

theorem hear_eq_ok {c : Connection} {w w' : World P} {heard : Option RxFrame}
    (h : hear c w = .ok heard w') :
    (∃ i j, Hears c w.radio heard w'.radio i j) ∧ w'.dispatched = w.dispatched := by
  rw [hear_eq] at h
  obtain ⟨_, u, waited, h⟩ := bind_eq_ok.mp h
  obtain ⟨i, j, rest, rfl, anchor, beforeAnchor, opening, beforeOpening⟩ := awaitWindow_eq_ok waited
  obtain ⟨_, u, received, h⟩ := bind_eq_ok.mp h
  rw [receive_apply] at received
  cases received
  obtain ⟨radio, rest', rfl, window⟩ := listen_eq_ok h
  exact ⟨⟨i, j, anchor, beforeAnchor, opening, beforeOpening, window⟩, rfl⟩

theorem sendAck_eq (ack : AckState) (channel : UInt8) :
    (sendAck ack channel : LinkM P Unit) = send ack.response channel := by
  rfl

/-- The second half of a connection event, from what was heard in its window: what is reported,
the link and the radio afterwards, and the control PDUs handed on. -/
inductive Reacts (link : Link) (c : Connection) (radio : Radio P) :
    Option RxFrame → LinkEvent → Link → Radio P → List ControlPdu → Prop
  /-- Nothing was accepted, and the peer has not been silent for too long. -/
  | stands {heard : Option RxFrame} (vain : heardPdu? heard = none)
      (recent : elapsedSince radio.clock.now c.lastRx ≤ c.supervisionTicks) :
      Reacts link c radio heard (c.report heard) { link with state := .connected (c.after heard) }
        (radio.afterReads 1) []
  /-- Nothing was accepted, and the peer has been silent for too long. -/
  | lost {heard : Option RxFrame} (vain : heardPdu? heard = none)
      (silent : c.supervisionTicks < elapsedSince radio.clock.now c.lastRx) :
      Reacts link c radio heard
        (.connectionLost (.supervisionTimeout (elapsedSince radio.clock.now c.lastRx)
          c.supervisionTicks))
        { link with state := .advertising }
        ((radio.afterReads 1).idle.configure advAccessAddress advCrcInit link.config.phy) []
  /-- A PDU was accepted and answered, and its handler, if it has one, keeps the connection. -/
  | accepted {frame : RxFrame} {pdu : DataPdu} (n : Nat)
      (wellFormed : DataPdu.ofBytes frame.bytes = .ok pdu)
      (before : ∀ i < n,
        radio.clock.elapsedAt frame.timestamp link.config.tickRate.interFrameSpace i = false)
      (keeps : ∀ request, c.ack.newControl? pdu = some request →
        (link.controls.dispatch request c.context).1 = .keepConnection)
      (passed :
        radio.clock.elapsedAt frame.timestamp link.config.tickRate.interFrameSpace n = true) :
      Reacts link c radio (some frame) (c.report (some frame))
        { link with state := .connected (c.after (some frame)) }
        ((radio.afterReads (n + 1)).transmit c.channel (c.ack.afterReceive pdu.header).response)
        (c.ack.newControl? pdu).toList
  /-- A PDU was accepted and answered, and its handler ends the connection. -/
  | terminated {frame : RxFrame} {pdu : DataPdu} (n : Nat) (request : ControlPdu)
      (wellFormed : DataPdu.ofBytes frame.bytes = .ok pdu)
      (before : ∀ i < n,
        radio.clock.elapsedAt frame.timestamp link.config.tickRate.interFrameSpace i = false)
      (new : c.ack.newControl? pdu = some request)
      (ends : (link.controls.dispatch request c.context).1 = .terminate)
      (passed :
        radio.clock.elapsedAt frame.timestamp link.config.tickRate.interFrameSpace n = true) :
      Reacts link c radio (some frame) (.terminated request.terminateReason?)
        { link with state := .advertising }
        (((radio.afterReads (n + 1)).transmit c.channel
          (c.ack.afterReceive pdu.header).response).idle.configure advAccessAddress advCrcInit
            link.config.phy)
        [request]

omit [Peer P] in
theorem tearDown_apply (link : Link) (w : World P) :
    (link.tearDown : LinkM P Unit) w = .ok ()
      { w with
        radio := w.radio.idle.configure advAccessAddress advCrcInit link.config.phy } := rfl

omit [Peer P] in
theorem control_apply (link : Link) (c : Connection) (request : ControlPdu) (w : World P) :
    (link.control c request : LinkM P ControlAction) w =
      .ok (link.controls.dispatch request c.context).1
        { w with
          notices := (w.notices.push (.controlReceived request c.eventCounter)).appendList
            (link.controls.dispatch request c.context).2
          dispatched := w.dispatched.push request } := rfl

theorem supervise_eq_ok {link link' : Link} {c : Connection} {heard : Option RxFrame}
    {w w' : World P} {event : LinkEvent} (vain : heardPdu? heard = none)
    (h : link.supervise (c.after heard) (c.report heard) w = .ok (event, link') w') :
    link.Reacts c w.radio heard event link' w'.radio [] ∧ w'.dispatched = w.dispatched := by
  unfold supervise at h
  obtain ⟨now, u, read, h⟩ := bind_eq_ok.mp h
  obtain ⟨rest, rfl, rfl⟩ := readClock_eq_ok read
  rw [(Connection.after_of_vain vain).2, Connection.after_supervisionTicks] at h
  dsimp only at h
  split at h
  · rename_i recent
    obtain ⟨same, rfl⟩ := pure_eq_ok.mp h
    cases same
    exact ⟨.stands vain recent, rfl⟩
  · rename_i silent
    obtain ⟨_, u, noted, h⟩ := bind_eq_ok.mp h
    rw [note_apply] at noted
    cases noted
    obtain ⟨_, u, torn, h⟩ := bind_eq_ok.mp h
    rw [tearDown_apply] at torn
    cases torn
    obtain ⟨same, rfl⟩ := pure_eq_ok.mp h
    cases same
    exact ⟨.lost vain (by simpa using silent), rfl⟩

theorem acceptData_eq_ok {link link' : Link} {c : Connection} {frame : RxFrame} {pdu : DataPdu}
    {w w' : World P} {event : LinkEvent} (wellFormed : DataPdu.ofBytes frame.bytes = .ok pdu)
    (h : link.acceptData c c.channel frame.timestamp pdu w = .ok (event, link') w') :
    ∃ new, link.Reacts c w.radio (some frame) event link' w'.radio new ∧
      w'.dispatched.toList = w.dispatched.toList ++ new := by
  have after : { c with
      ack := c.ack.afterReceive pdu.header, missed := 0, lastRx := frame.timestamp } =
      c.after (some frame) := (c.after_of_ofBytes wellFormed).symm
  have report : LinkEvent.dataReceived c.channel pdu.header.llid pdu.payload.length
      (!c.ack.isNew pdu.header) = c.report (some frame) := by
    simp only [Connection.report, wellFormed]
  unfold acceptData at h
  simp only [sendAck_eq, after, report] at h
  obtain ⟨_, u, waited, h⟩ := bind_eq_ok.mp h
  obtain ⟨n, rest, rfl, passed, before⟩ := waitUntil_eq_ok waited
  obtain ⟨_, u, sent, h⟩ := bind_eq_ok.mp h
  rw [send_apply] at sent
  cases sent
  cases control : c.ack.newControl? pdu with
  | none =>
    simp only [control] at h
    obtain ⟨same, rfl⟩ := pure_eq_ok.mp h
    cases same
    refine ⟨(c.ack.newControl? pdu).toList, .accepted n wellFormed before ?_ passed, by simp [control]⟩
    intro request new
    rw [control] at new
    cases new
  | some request =>
    simp only [control] at h
    obtain ⟨action, u, handled, h⟩ := bind_eq_ok.mp h
    rw [control_apply, Connection.after_context] at handled
    cases handled
    cases action : (link.controls.dispatch request c.context).1 with
    | keepConnection =>
      simp only [action] at h
      obtain ⟨same, rfl⟩ := pure_eq_ok.mp h
      cases same
      refine ⟨(c.ack.newControl? pdu).toList, .accepted n wellFormed before ?_ passed, by simp [control]⟩
      intro request' new
      rw [control] at new
      cases new
      exact action
    | terminate =>
      simp only [action] at h
      obtain ⟨_, u, noted, h⟩ := bind_eq_ok.mp h
      rw [note_apply] at noted
      cases noted
      obtain ⟨_, u, torn, h⟩ := bind_eq_ok.mp h
      rw [tearDown_apply] at torn
      cases torn
      obtain ⟨same, rfl⟩ := pure_eq_ok.mp h
      cases same
      exact ⟨[request], .terminated n request wellFormed before control action passed,
        by simp⟩

theorem react_eq_ok {link link' : Link} {c : Connection} {heard : Option RxFrame} {w w' : World P}
    {event : LinkEvent} (h : link.react c heard w = .ok (event, link') w') :
    ∃ new, link.Reacts c w.radio heard event link' w'.radio new ∧
      w'.dispatched.toList = w.dispatched.toList ++ new := by
  cases heard with
  | none =>
    obtain ⟨_, u, noted, h⟩ := bind_eq_ok.mp h
    rw [note_apply] at noted
    cases noted
    have vain : heardPdu? none = none := rfl
    obtain ⟨reacts, same⟩ := supervise_eq_ok vain h
    exact ⟨[], reacts, by simp [same]⟩
  | some frame =>
    obtain ⟨_, u, noted, h⟩ := bind_eq_ok.mp h
    rw [note_apply] at noted
    cases noted
    cases read : DataPdu.ofBytes frame.bytes with
    | error defect =>
      simp only [read] at h
      obtain ⟨_, u, noted, h⟩ := bind_eq_ok.mp h
      rw [note_apply] at noted
      cases noted
      have vain : heardPdu? (some frame) = none := heardPdu?_eq_none.mpr (.inr ⟨_, _, rfl, read⟩)
      have after : c.after (some frame) = c := c.after_of_error read
      have report : c.report (some frame) = .frameDiscarded (.malformedFrame defect) := by
        simp only [Connection.report, read]
      rw [← after, ← report] at h
      obtain ⟨reacts, same⟩ := supervise_eq_ok vain h
      exact ⟨[], reacts, by simp [same]⟩
    | ok pdu =>
      simp only [read] at h
      have accepts := acceptData_eq_ok read h
      exact accepts

/-- A connection event that returns has heard something or nothing, and has reacted to that. -/
theorem connectionEvent_eq_ok {link link' : Link} {c : Connection} {w w' : World P}
    {event : LinkEvent} (h : link.connectionEvent c w = .ok (event, link') w') :
    ∃ heard radio new i j, Hears c w.radio heard radio i j ∧
      link.Reacts c.nextEvent radio heard event link' w'.radio new ∧
      w'.dispatched.toList = w.dispatched.toList ++ new := by
  unfold connectionEvent at h
  obtain ⟨heard, u, hears, h⟩ := bind_eq_ok.mp h
  obtain ⟨⟨i, j, hears⟩, same⟩ := hear_eq_ok hears
  obtain ⟨new, reacts, handed⟩ := react_eq_ok h
  rw [same] at handed
  exact ⟨heard, u.radio, new, i, j, hears, reacts, handed⟩

theorem Reacts.of_data {link link' : Link} {c : Connection} {radio radio' : Radio P}
    {frame : RxFrame} {event : LinkEvent} {new : List ControlPdu} {pdu : DataPdu}
    (h : link.Reacts c radio (some frame) event link' radio' new)
    (wellFormed : DataPdu.ofBytes frame.bytes = .ok pdu) (data : c.ack.newControl? pdu = none) :
    event = c.report (some frame) ∧ link' = { link with state := .connected (c.after (some frame)) } ∧
      ∃ n, (∀ i < n,
        radio.clock.elapsedAt frame.timestamp link.config.tickRate.interFrameSpace i = false) ∧
        radio'.clock = radio.clock.afterReads (n + 1) := by
  have heard := heardPdu?_of_ofBytes wellFormed
  cases h with
  | stands vain => rw [heard] at vain; cases vain
  | lost vain => rw [heard] at vain; cases vain
  | accepted n _ before => exact ⟨rfl, rfl, n, before, rfl⟩
  | terminated n request wellFormed' _ new =>
    rw [wellFormed] at wellFormed'
    cases wellFormed'
    rw [data] at new
    cases new

theorem Reacts.of_terminating {link link' : Link} {c : Connection} {radio radio' : Radio P}
    {frame : RxFrame} {event : LinkEvent} {new : List ControlPdu} {pdu : DataPdu}
    {request : ControlPdu} (h : link.Reacts c radio (some frame) event link' radio' new)
    (wellFormed : DataPdu.ofBytes frame.bytes = .ok pdu)
    (asks : c.ack.newControl? pdu = some request)
    (ends : (link.controls.dispatch request c.context).1 = .terminate) :
    event = .terminated request.terminateReason? ∧ link' = { link with state := .advertising } := by
  have heard := heardPdu?_of_ofBytes wellFormed
  cases h with
  | stands vain => rw [heard] at vain; cases vain
  | lost vain => rw [heard] at vain; cases vain
  | accepted n wellFormed' _ keeps =>
    rw [wellFormed] at wellFormed'
    cases wellFormed'
    rw [keeps request asks] at ends
    cases ends
  | terminated n request' wellFormed' _ new =>
    rw [wellFormed] at wellFormed'
    cases wellFormed'
    rw [asks] at new
    cases new
    exact ⟨rfl, rfl⟩

theorem Hears.readsTo {c : Connection} {radio radio' : Radio P} {heard : Option RxFrame}
    {i j : Nat} (h : Hears c radio heard radio' i j) : radio.clock.ReadsTo radio'.clock :=
  (radio.clock.readsTo_afterReads (i + 1 + (j + 1))).trans h.window.readsTo

theorem Hears.clock_step {c : Connection} {radio radio' : Radio P} {heard : Option RxFrame}
    {i j : Nat} (h : Hears c radio heard radio' i j) : radio'.clock.step = radio.clock.step :=
  h.readsTo.step_eq

theorem Hears.frames_eq {c : Connection} {radio radio' : Radio P} {heard : Option RxFrame}
    {i j : Nat} (h : Hears c radio heard radio' i j) :
    radio'.frames = radio.frames ++ heard.toList := by
  cases h.window with
  | frame n opened delivery => simp [Radio.frames, armed, List.filterMap_cons, RadioEvent.frame?]
  | silence n => simp [Radio.frames, armed, List.filterMap_cons, RadioEvent.frame?]

theorem Reacts.frames_eq {link link' : Link} {c : Connection} {radio radio' : Radio P}
    {heard : Option RxFrame} {event : LinkEvent} {new : List ControlPdu}
    (h : link.Reacts c radio heard event link' radio' new) : radio'.frames = radio.frames := by
  cases h <;> simp [Radio.frames, RadioEvent.frame?]

end Link

end BlePeripheral

import BlePeripheral.Proofs.Link.Delivery
import BlePeripheral.Proofs.Link.Supervision
import BlePeripheral.Proofs.Link.Windows

/-! Traffic that holds no data PDU. However much of it comes in, and between however many silent
windows, it is not answered and leaves no trace in a connection but that time passes. -/

namespace BlePeripheral

theorem heardPdu?_of_rejected {heard : Option RxFrame}
    (rejected : ∀ frame ∈ heard, (DataPdu.ofBytes frame.bytes).isOk = false) :
    heardPdu? heard = none := by
  cases heard with
  | none => rfl
  | some frame =>
    have no := rejected frame rfl
    cases read : DataPdu.ofBytes frame.bytes with
    | error defect => exact heardPdu?_eq_none.mpr (.inr ⟨frame, defect, rfl, read⟩)
    | ok pdu => simp [read, Except.isOk, Except.toBool] at no

theorem dataFrames_eq_nil {windows : List (UInt8 × Option RxFrame)}
    (vain : ∀ window ∈ windows, heardPdu? window.2 = none) : dataFrames windows = [] := by
  induction windows with
  | nil => rfl
  | cons window windows ih =>
    obtain ⟨now, later⟩ := List.forall_mem_cons.mp vain
    rw [dataFrames_cons, dataFrames_of_vain now, ih later, List.append_nil]

theorem dataPdus_eq_nil {frames : List RxFrame}
    (rejected : ∀ frame ∈ frames, (DataPdu.ofBytes frame.bytes).isOk = false) :
    dataPdus frames = [] := by
  apply List.filterMap_eq_nil_iff.mpr
  intro frame member
  exact heardPdu?_of_rejected (by simpa using rejected frame member)

namespace Connection

/-- The second connection is the first some events on: where it is in its schedule and how many
windows it has missed may differ, and nothing else. -/
def MovedOn (c c' : Connection) : Prop :=
  c' = { c with
    anchor := c'.anchor
    eventCounter := c'.eventCounter
    selector := { c.selector with
      lastUnmapped := c'.selector.lastUnmapped
      current := c'.selector.current }
    missed := c'.missed }

theorem MovedOn.trans {c₁ c₂ c₃ : Connection} (h : c₁.MovedOn c₂) (h' : c₂.MovedOn c₃) :
    c₁.MovedOn c₃ := by
  unfold MovedOn at *
  rw [h', h]

theorem movedOn_after {c : Connection} {heard : Option RxFrame} (vain : heardPdu? heard = none) :
    c.MovedOn (c.nextEvent.after heard) := by
  obtain ⟨ack, lastRx, missed, after⟩ := c.nextEvent.after_eq heard
  obtain ⟨sameAck, sameLastRx⟩ := after_of_vain (c := c.nextEvent) vain
  rw [after] at sameAck sameLastRx ⊢
  dsimp only at sameAck sameLastRx
  subst sameAck sameLastRx
  rfl

theorem movedOn_afterEvents {c : Connection} {windows : List (UInt8 × Option RxFrame)}
    (vain : ∀ window ∈ windows, heardPdu? window.2 = none) : c.MovedOn (c.afterEvents windows) := by
  induction windows generalizing c with
  | nil => rfl
  | cons window windows ih =>
    obtain ⟨now, later⟩ := List.forall_mem_cons.mp vain
    exact (movedOn_after now).trans (ih later)

theorem MovedOn.lastRx_eq {c c' : Connection} (h : c.MovedOn c') : c'.lastRx = c.lastRx := by
  rw [h]

theorem MovedOn.supervisionTicks_eq {c c' : Connection} (h : c.MovedOn c') :
    c'.supervisionTicks = c.supervisionTicks := by
  rw [h]

end Connection

namespace Link

variable {P : Type} [Peer P]

theorem Step.check_of_rejected {link link' : Link} {w w' : World P} {event : LinkEvent}
    {c : Connection} {frames : List RxFrame} (h : link.Step w event link' w')
    (connected : link.state = .connected c) (came : w'.radio.frames = w.radio.frames ++ frames)
    (rejected : ∀ frame ∈ frames, (DataPdu.ofBytes frame.bytes).isOk = false) :
    ∃ check, w'.radio.clock.now = check + w'.radio.clock.step ∧
      (link'.state.isConnected = true ↔ elapsedSince check c.lastRx ≤ c.supervisionTicks) := by
  obtain ⟨heard, radio, new, i, j, hears, reacts, -⟩ := h.of_connected connected
  rw [reacts.frames_eq, hears.frames_eq, List.append_cancel_left_eq] at came
  have vain : heardPdu? heard = none := by
    apply heardPdu?_of_rejected
    intro frame member
    rw [← came] at rejected
    exact rejected frame (Option.mem_toList.mpr member)
  obtain ⟨clock, decided⟩ := reacts.of_vain vain
  rw [Connection.nextEvent_lastRx, Connection.nextEvent_supervisionTicks] at decided
  refine ⟨radio.clock.now, by rw [clock, ← Clock.afterRead_eq]; exact Clock.now_afterRead _, ?_⟩
  obtain ⟨recent, -, rfl⟩ | ⟨silent, -, rfl⟩ := decided
  · exact ⟨fun _ => recent, fun _ => rfl⟩
  · exact ⟨nofun, fun recent => absurd silent (UInt32.not_lt.mpr recent)⟩

/-- Through any number of windows that stay silent or bring frames that hold no data PDU, a link
transmits nothing and runs no handler, and its connection only moves on in its schedule. Whether
such an event ends it is decided by the time since the last PDU before them all. -/
theorem malformed_traffic_without_effect {link link' : Link} {w w' : World P} {stages : List Stage}
    {c : Connection} {frames : List RxFrame} (start : link.state = .connected c)
    (run : Run link w stages link' w')
    (connected : ∀ stage ∈ stages, stage.before.state.isConnected = true)
    (came : w'.radio.frames = w.radio.frames ++ frames)
    (rejected : ∀ frame ∈ frames, (DataPdu.ofBytes frame.bytes).isOk = false) :
    (∃ log, w'.radio.journal.toList = w.radio.journal.toList ++ log ∧
        (listenings log).length = stages.length ∧ log.filterMap RadioEvent.sent? = []) ∧
      w'.dispatched = w.dispatched ∧
      (∀ c', link'.state = .connected c' → c.MovedOn c') ∧
      ∀ event link'' w'' frames', link'.state.isConnected = true → link'.Step w' event link'' w'' →
        w''.radio.frames = w'.radio.frames ++ frames' →
        (∀ frame ∈ frames', (DataPdu.ofBytes frame.bytes).isOk = false) →
        ∃ check, w''.radio.clock.now = check + w''.radio.clock.step ∧
          (link''.state.isConnected = true ↔
            elapsedSince check c.lastRx ≤ c.supervisionTicks) := by
  obtain ⟨log, journal, logged, length, outcome⟩ := run.course.windows start connected
  have heard : (listenings log).filterMap Prod.snd = frames := by
    rw [← logged.frames]
    rw [Radio.frames, journal, List.filterMap_append] at came
    exact List.append_cancel_left came
  have vain : ∀ window ∈ listenings log, heardPdu? window.2 = none := by
    intro window member
    apply heardPdu?_of_rejected
    intro frame here
    rw [← heard] at rejected
    exact rejected frame (List.mem_filterMap.mpr ⟨window, member, here⟩)
  have moved : ∀ c', link'.state = .connected c' → c.MovedOn c' := by
    intro c' stays
    obtain still | ended := outcome
    · rw [stays] at still
      cases still
      exact Connection.movedOn_afterEvents vain
    · rw [stays] at ended
      cases ended
  refine ⟨⟨log, journal, length, ?_⟩, ?_, moved, ?_⟩
  · rw [logged.sent, dataFrames_eq_nil vain]
    rfl
  · obtain ⟨frames', came', handed⟩ := run.dispatched_eq start connected
    rw [came, List.append_cancel_left_eq] at came'
    rw [← came', dataPdus_eq_nil rejected, DataPdu.newControls, List.append_nil] at handed
    exact Array.toList_inj.mp handed
  · intro event link'' w'' frames' still step came' rejected'
    obtain ⟨c', stays⟩ := LinkState.exists_of_isConnected still
    have same := moved c' stays
    rw [← same.lastRx_eq, ← same.supervisionTicks_eq]
    exact step.check_of_rejected stays came' rejected'

theorem rejected_of_test {before after new : List RxFrame} (came : after = before ++ new)
    (h : ((after.drop before.length).all fun frame => !(DataPdu.ofBytes frame.bytes).isOk) = true) :
    ∀ frame ∈ new, (DataPdu.ofBytes frame.bytes).isOk = false := by
  rw [came, List.drop_left] at h
  simpa using h

/-- A malformed frame and a silent window leave a connection as it was, and the malformed frame
after them comes too late to save it. -/
theorem malformed_traffic_without_effect_of_loss :
    ∃ (link link' : Link) (w w' : World ScriptedPeer) (stages : List Stage) (c : Connection)
      (frames : List RxFrame), link.state = .connected c ∧ Run link w stages link' w' ∧
      stages.length = 2 ∧ (∀ stage ∈ stages, stage.before.state.isConnected = true) ∧
      w'.radio.frames = w.radio.frames ++ frames ∧
      (∀ frame ∈ frames, (DataPdu.ofBytes frame.bytes).isOk = false) ∧
      (∃ log, w'.radio.journal.toList = w.radio.journal.toList ++ log ∧
        (listenings log).length = 2 ∧ log.filterMap RadioEvent.sent? = []) ∧
      w'.dispatched = w.dispatched ∧ (∃ c', link'.state = .connected c' ∧ c.MovedOn c') ∧
      ∃ event link'' w'' check, link'.Step w' event link'' w'' ∧ link''.state = .advertising ∧
        w''.radio.clock.now = check + w''.radio.clock.step ∧
        ¬elapsedSince check c.lastRx ≤ c.supervisionTicks := by
  have passes : testConnecting {}
      [some ⟨100, [0x01, 0]⟩, some ⟨100, [0x01]⟩, none, some ⟨100, [0x01, 5, 0xaa]⟩]
      (fun link w => LinkM.test link.step { w with polls := 10 } fun outcome w =>
        outcome.2.state.isConnected &&
        testRun 500 (fun link' w' => link'.state.isConnected &&
          ((w'.radio.frames.drop w.radio.frames.length).all fun frame =>
            !(DataPdu.ofBytes frame.bytes).isOk) &&
          LinkM.test link'.step { w' with polls := 500 } fun last w'' =>
            last.2.state = .advertising &&
            ((w''.radio.frames.drop w'.radio.frames.length).all fun frame =>
              !(DataPdu.ofBytes frame.bytes).isOk)) 2 outcome.2 w) = true := by
    decide +kernel
  obtain ⟨_, _, _, -, -, passes⟩ := Reachable.of_test passes
  obtain ⟨_, link, w, -, passes⟩ := Step.of_test passes
  rw [Bool.and_eq_true] at passes
  obtain ⟨c, start⟩ := LinkState.exists_of_isConnected passes.1
  obtain ⟨stages, link', w', run, length, connected, passes⟩ := Run.of_test passes.2
  simp only [Bool.and_eq_true] at passes
  obtain ⟨⟨still, rejected⟩, passes⟩ := passes
  obtain ⟨c', stays⟩ := LinkState.exists_of_isConnected still
  obtain ⟨event, link'', w'', step, passes⟩ := Step.of_test passes
  rw [Bool.and_eq_true, decide_eq_true_eq] at passes
  obtain ⟨ended, rejected'⟩ := passes
  obtain ⟨frames, came, -⟩ := run.dispatched_eq start connected
  obtain ⟨frames', came', -⟩ :=
    (Run.cons step (.nil link'' w'')).dispatched_eq stays (by simpa using still)
  replace rejected := rejected_of_test came rejected
  replace rejected' := rejected_of_test came' rejected'
  obtain ⟨⟨log, journal, heard, sent⟩, handed, moved, next⟩ :=
    malformed_traffic_without_effect start run connected came rejected
  obtain ⟨check, checked, decided⟩ := next event link'' w'' frames' still step came' rejected'
  refine ⟨link, link', w, w', stages, c, frames, start, run, length, connected, came, rejected,
    ⟨log, journal, heard.trans length, sent⟩, handed, ⟨c', stays, moved c' stays⟩,
    event, link'', w'', check, step, ended, checked, ?_⟩
  rw [← decided, ended]
  nofun

end Link

end BlePeripheral

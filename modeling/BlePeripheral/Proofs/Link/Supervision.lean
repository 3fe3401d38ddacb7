import BlePeripheral.Proofs.Link.Ends
import BlePeripheral.Proofs.Link.Journal

/-! Supervision in true time. The link compares wrapped ticks; what it finds is nevertheless
the true time since the peer was last heard, because the waits of a connection event are
bounded and so two checks are never far enough apart for a wrap to go unnoticed. -/

namespace BlePeripheral

/-- What the radio's journal tells of a peer: when the radio last began to listen, and when
the last well-formed data PDU was complete. -/
structure Hearing where
  opened : Nat
  heard : Nat

namespace Hearing

def next (hearing : Hearing) : RadioEvent → Hearing
  | .listened _ time => { hearing with opened := time }
  | .delivered frame =>
    match DataPdu.ofBytes frame.bytes with
    | .ok _ =>
      let delay := elapsedSince frame.timestamp (Time.tick hearing.opened)
      { hearing with heard := hearing.opened + delay.toNat }
    | .error _ => hearing
  | _ => hearing

end Hearing

/-- When the peer was last heard, if that was at `since` before the given events. -/
def lastHeard (since : Nat) (events : List RadioEvent) : Nat :=
  (events.foldl Hearing.next ⟨since, since⟩).heard

theorem Time.tick_add_elapsedSince (t : Nat) (now : Tick) :
    Time.tick (t + (elapsedSince now (Time.tick t)).toNat) = now := by
  apply UInt32.toNat_inj.mp
  have bound := now.toNat_lt
  simp only [elapsedSince, UInt32.toNat_sub, Time.toNat_tick]
  omega

/-- The spans that bound how long a connection goes without a check. -/
structure Spans where
  timeout : UInt32
  interval : UInt32
  frameSpace : UInt32
  step : UInt32

/-- Between two checks less time passes than the tick counter can tell apart. -/
def Spans.Fit (spans : Spans) : Prop :=
  spans.timeout.toNat + 4 * spans.interval.toNat + spans.frameSpace.toNat +
    16 * spans.step.toNat < 4294967296

/-- What holds between connection events when the peer was last heard at `heard`. -/
structure Connection.Follows (c : Connection) (spans : Spans) (clock : Clock) (heard : Nat) :
    Prop where
  timed : c.IsTimed
  timeout : c.supervisionTicks = spans.timeout
  interval : c.intervalTicks = spans.interval
  step : clock.step = spans.step
  lastRx : c.lastRx = Time.tick heard
  past : heard ≤ clock.time
  recent : clock.time ≤
    heard + spans.timeout.toNat + spans.frameSpace.toNat + 5 * spans.step.toNat

theorem Connection.Follows.elapsed {c : Connection} {spans : Spans} {clock : Clock} {heard now : Nat}
    (h : c.Follows spans clock heard) (fit : spans.Fit) (later : clock.time ≤ now)
    (soon : now ≤ clock.time + 3 * spans.interval.toNat + 8 * spans.step.toNat) :
    heard ≤ now ∧ (elapsedSince (Time.tick now) c.lastRx).toNat = now - heard := by
  have past := h.past
  have recent := h.recent
  unfold Spans.Fit at fit
  obtain ⟨gap, rfl⟩ := Nat.exists_eq_add_of_le (Nat.le_trans past later)
  refine ⟨Nat.le_add_right _ _, ?_⟩
  rw [h.lastRx, elapsedSince_tick_add, UInt32.toNat_ofNat']
  omega

theorem Connection.Follows.room {c : Connection} {spans : Spans} {clock : Clock} {heard : Nat}
    (h : c.Follows spans clock heard) (fit : spans.Fit) :
    c.intervalTicks.toNat + 2 * clock.step.toNat < 4294967296 := by
  unfold Spans.Fit at fit
  rw [h.interval, h.step]
  omega

namespace Link

variable {P : Type} [Peer P]

theorem awaited_receive {radio : Radio P} {channel : UInt8} {opened : Tick} {delivery : Delivery}
    (h : (radio.receive channel).2.awaited = some (opened, delivery)) :
    opened = radio.clock.now := by
  obtain ⟨_, _, same⟩ := Option.map_eq_some_iff.mp h
  exact (Prod.mk.inj same).1.symm

/-- Up to its reaction a connection event takes three intervals at most: two waits and a window,
none of which is longer than one. -/
theorem Hears.time_le {c : Connection} {radio radio' : Radio P} {heard : Option RxFrame} {i j : Nat}
    (h : Hears c radio heard radio' i j) (timed : c.IsTimed)
    (room : c.intervalTicks.toNat + 2 * radio.clock.step.toNat ≤ 4294967296) :
    radio.clock.time ≤ radio'.clock.time ∧
      radio'.clock.time ≤
        radio.clock.time + 3 * c.intervalTicks.toNat + 8 * radio.clock.step.toNat := by
  have opens := UInt32.le_iff_toNat_le.mp timed.opens
  have closes := UInt32.le_iff_toNat_le.mp timed.closes
  have anchor := Clock.wait_time_le (by omega) h.beforeAnchor
  have opening := Clock.wait_time_le (by simp only [Clock.afterReads_step]; omega) h.beforeOpening
  have window := h.window.time_le (by simp only [armed, Radio.receive_clock,
    Radio.afterReads_clock, Clock.afterReads_step]; omega)
  simp only [armed, Radio.receive_clock, Radio.afterReads_clock, Clock.afterReads_step,
    Clock.afterReads_time, Nat.add_mul (i + 1) (j + 1)] at opening window
  omega

theorem Hears.elapsed {c : Connection} {radio radio' : Radio P} {heard : Option RxFrame}
    {i j since : Nat} {spans : Spans} (h : Hears c radio heard radio' i j)
    (follows : c.Follows spans radio.clock since) (fit : spans.Fit) :
    since ≤ radio'.clock.time ∧
      (elapsedSince radio'.clock.now c.lastRx).toNat = radio'.clock.time - since := by
  obtain ⟨later, soon⟩ := h.time_le follows.timed (Nat.le_of_lt (follows.room fit))
  rw [follows.interval, follows.step] at soon
  exact follows.elapsed fit later soon

theorem Hears.journal_eq {c : Connection} {radio radio' : Radio P} {heard : Option RxFrame}
    {i j : Nat} (h : Hears c radio heard radio' i j) (timed : c.IsTimed)
    (room : c.intervalTicks.toNat + 2 * radio.clock.step.toNat < 4294967296) :
    ∃ events, radio'.journal.toList = radio.journal.toList ++ events ∧ ∀ hearing : Hearing,
      (heardPdu? heard = none → (events.foldl Hearing.next hearing).heard = hearing.heard) ∧
      ∀ frame pdu, heard = some frame → DataPdu.ofBytes frame.bytes = .ok pdu →
        frame.timestamp = Time.tick (events.foldl Hearing.next hearing).heard ∧
        (events.foldl Hearing.next hearing).heard ≤ radio'.clock.time ∧
        radio'.clock.time ≤
          (events.foldl Hearing.next hearing).heard + 3 * radio.clock.step.toNat := by
  have closes := UInt32.le_iff_toNat_le.mp timed.closes
  have arming := h.window
  unfold armed at arming
  generalize before : radio.afterReads (i + 1 + (j + 1)) = waiting at arming
  have journal : waiting.journal = radio.journal := by rw [← before, Radio.afterReads_journal]
  have step : waiting.clock.step = radio.clock.step := by rw [← before]; rfl
  cases heard with
  | none =>
    refine ⟨[.listened c.nextEvent.channel waiting.clock.time, .idled radio'.clock.time], ?_, ?_⟩
    · cases arming
      simp [journal]
    · intro hearing
      simp [Hearing.next]
  | some frame =>
    refine ⟨[.listened c.nextEvent.channel waiting.clock.time, .delivered frame], ?_, ?_⟩
    · cases arming
      simp [journal]
    · intro hearing
      have complete := arming.completed_le (fun _ _ => awaited_receive)
        (by rw [Radio.receive_clock, step]; omega)
      rw [Radio.receive_clock, step] at complete
      cases read : DataPdu.ofBytes frame.bytes with
      | error defect =>
        refine ⟨fun _ => by simp [Hearing.next, read], ?_⟩
        intro _ _ same wellFormed
        cases same
        rw [read] at wellFormed
        cases wellFormed
      | ok pdu =>
        simp only [heardPdu?_of_ofBytes read, read, List.foldl_cons, List.foldl_nil, Hearing.next]
        constructor
        · intro none
          cases none
        intro _ _ same _
        cases same
        exact ⟨(Time.tick_add_elapsedSince _ _).symm, complete⟩

theorem Reacts.journal_eq {link link' : Link} {c : Connection} {radio radio' : Radio P}
    {heard : Option RxFrame} {event : LinkEvent} {new : List ControlPdu}
    (h : link.Reacts c radio heard event link' radio' new) :
    ∃ events, radio'.journal.toList = radio.journal.toList ++ events ∧
      ∀ hearing : Hearing, events.foldl Hearing.next hearing = hearing := by
  obtain ⟨log, journal, logged⟩ := h.log_eq
  refine ⟨log, journal, ?_⟩
  intro hearing
  cases logged <;> rfl

theorem Reacts.of_stays {link link' : Link} {c c' : Connection} {radio radio' : Radio P}
    {heard : Option RxFrame} {event : LinkEvent} {new : List ControlPdu}
    (h : link.Reacts c radio heard event link' radio' new) (stays : link'.state = .connected c') :
    c' = c.after heard ∧
      ((heardPdu? heard = none ∧ elapsedSince radio.clock.now c.lastRx ≤ c.supervisionTicks ∧
          radio'.clock = radio.clock.afterReads 1) ∨
        ∃ frame pdu n, heard = some frame ∧ DataPdu.ofBytes frame.bytes = .ok pdu ∧
          (∀ i < n, radio.clock.elapsedAt frame.timestamp
            link.config.tickRate.interFrameSpace i = false) ∧
          radio'.clock = radio.clock.afterReads (n + 1)) := by
  cases h with
  | stands vain recent =>
    cases stays
    exact ⟨rfl, .inl ⟨vain, recent, rfl⟩⟩
  | lost => cases stays
  | @accepted frame pdu n wellFormed before =>
    cases stays
    exact ⟨rfl, .inr ⟨frame, pdu, n, rfl, wellFormed, before, rfl⟩⟩
  | terminated => cases stays

theorem Reacts.of_vain {link link' : Link} {c : Connection} {radio radio' : Radio P}
    {heard : Option RxFrame} {event : LinkEvent} {new : List ControlPdu}
    (h : link.Reacts c radio heard event link' radio' new) (vain : heardPdu? heard = none) :
    radio'.clock = radio.clock.afterReads 1 ∧
      ((elapsedSince radio.clock.now c.lastRx ≤ c.supervisionTicks ∧ event = c.report heard ∧
          link' = { link with state := .connected (c.after heard) }) ∨
        (c.supervisionTicks < elapsedSince radio.clock.now c.lastRx ∧
          event = .connectionLost (.supervisionTimeout
            (elapsedSince radio.clock.now c.lastRx) c.supervisionTicks) ∧
          link' = { link with state := .advertising })) := by
  cases h with
  | stands _ recent => exact ⟨rfl, .inl ⟨recent, rfl, rfl⟩⟩
  | lost _ silent => exact ⟨rfl, .inr ⟨silent, rfl, rfl⟩⟩
  | accepted n wellFormed => simp [heardPdu?_of_ofBytes wellFormed] at vain
  | terminated n request wellFormed => simp [heardPdu?_of_ofBytes wellFormed] at vain

theorem Step.follows {link link' : Link} {w w' : World P} {event : LinkEvent} {c : Connection}
    {spans : Spans} {hearing : Hearing} (h : link.Step w event link' w')
    (connected : link.state = .connected c) (fit : spans.Fit)
    (space : link.config.tickRate.interFrameSpace = spans.frameSpace)
    (follows : c.Follows spans w.radio.clock hearing.heard) :
    ∃ events, w'.radio.journal.toList = w.radio.journal.toList ++ events ∧
      ∀ c', link'.state = .connected c' →
        c'.Follows spans w'.radio.clock (events.foldl Hearing.next hearing).heard := by
  obtain ⟨heard, radio, new, i, j, hears, reacts, -⟩ := h.of_connected connected
  have room := follows.room fit
  obtain ⟨before, listened, told⟩ := hears.journal_eq follows.timed room
  obtain ⟨rest, reacted, untold⟩ := reacts.journal_eq
  have step : radio.clock.step = spans.step := by rw [hears.clock_step, follows.step]
  refine ⟨before ++ rest, by rw [reacted, listened, List.append_assoc], ?_⟩
  intro c' stays
  rw [List.foldl_append, untold]
  obtain ⟨rfl, chosen⟩ := reacts.of_stays stays
  have timed := follows.timed.after heard
  have timeout : (c.nextEvent.after heard).supervisionTicks = spans.timeout := by
    rw [Connection.after_supervisionTicks]
    exact follows.timeout
  have interval : (c.nextEvent.after heard).intervalTicks = spans.interval := by
    rw [Connection.after_intervalTicks]
    exact follows.interval
  obtain ⟨vain, recent, clock⟩ | ⟨frame, pdu, n, rfl, wellFormed, early, clock⟩ := chosen
  · -- The check has just found the peer recent, and it was the last reading.
    obtain ⟨past, elapsed⟩ := hears.elapsed follows fit
    have checked : radio.clock.time - hearing.heard ≤ spans.timeout.toNat := by
      rw [← elapsed, ← follows.timeout]
      exact UInt32.le_iff_toNat_le.mp recent
    rw [(told hearing).1 vain, clock]
    refine ⟨timed, timeout, interval, step, ?_, ?_, ?_⟩
    · rw [(Connection.after_of_vain vain).2]
      exact follows.lastRx
    · rw [Clock.afterReads_time]
      omega
    · rw [Clock.afterReads_time, step]
      omega
  · -- The response was sent an inter-frame space after the PDU was complete.
    obtain ⟨timestamp, past, complete⟩ := (told hearing).2 frame pdu rfl wellFormed
    have wait := Clock.wait_time_le (by unfold Spans.Fit at fit; rw [step, space]; omega) early
    rw [follows.step] at complete
    rw [space, step] at wait
    rw [clock]
    refine ⟨timed, timeout, interval, step, ?_, ?_, ?_⟩
    · rw [← timestamp, Connection.after_of_ofBytes _ wellFormed]
    · rw [Clock.afterReads_time]
      omega
    · rw [Clock.afterReads_time, step]
      omega

theorem Run.follows {link link' : Link} {w w' : World P} {stages : List Stage} {c c' : Connection}
    {spans : Spans} {hearing : Hearing} (run : Run link w stages link' w')
    (start : link.state = .connected c) (stays : link'.state = .connected c')
    (connected : ∀ stage ∈ stages, stage.before.state.isConnected = true) (fit : spans.Fit)
    (space : link.config.tickRate.interFrameSpace = spans.frameSpace)
    (follows : c.Follows spans w.radio.clock hearing.heard) :
    ∃ events, w'.radio.journal.toList = w.radio.journal.toList ++ events ∧
      c'.Follows spans w'.radio.clock (events.foldl Hearing.next hearing).heard ∧
      link'.config = link.config := by
  induction run generalizing c hearing with
  | nil link w =>
    rw [start] at stays
    cases stays
    exact ⟨[], by simp, follows, rfl⟩
  | @cons link next link' w u w' event stages step rest ih =>
    obtain ⟨first, journal, follows⟩ := step.follows start fit space follows
    have later := (List.forall_mem_cons.mp connected).2
    cases state : next.state with
    | connected c₁ =>
      rw [← step.config_eq] at space
      obtain ⟨events, journal', follows', config⟩ :=
        ih state stays later space (follows c₁ state)
      refine ⟨first ++ events, by rw [journal', journal, List.append_assoc], ?_, ?_⟩
      · rw [List.foldl_append]
        exact follows'
      · rw [config, step.config_eq]
    | _ =>
      -- The run would have to end here, but its last state is connected.
      obtain ⟨-, rfl, -⟩ := rest.eq_nil_of_ended later (by rw [state]; rfl)
      rw [stays] at state
      cases state

theorem Step.establishes {link link' : Link} {w w' : World P} {event : LinkEvent} {c : Connection}
    (h : link.Step w event link' w') (reached : Reachable link w)
    (waiting : link.state = .connectRequest c) :
    ∃ c' since, link'.state = .connected c' ∧ link'.config = link.config ∧
      c'.anchor = Time.tick since ∧ w'.radio.clock.time = since + w.radio.clock.step.toNat ∧
      c'.Follows ⟨c.supervisionTicks, c.intervalTicks, link.config.tickRate.interFrameSpace,
        w.radio.clock.step⟩ w'.radio.clock since := by
  obtain ⟨context, rfl⟩ := reached.connectRequest waiting
  obtain ⟨frame, radio, n, m, heard, answered, -, -, state⟩ := h.of_connectRequest waiting
  have step : radio.clock.step = w.radio.clock.step := by rw [heard]; rfl
  have clock : w'.radio.clock = (radio.clock.afterReads (m + 1)).afterReads 1 := by
    rw [answered]; rfl
  have time : w'.radio.clock.time =
      (radio.clock.afterReads (m + 1)).time + w.radio.clock.step.toNat := by
    rw [clock, Clock.afterReads_time, Clock.afterReads_step, step, Nat.one_mul]
  refine ⟨_, (radio.clock.afterReads (m + 1)).time, state, h.config_eq, rfl, time, ?_⟩
  have timed := Connection.isTimed_ofContext context link.config.tickRate
  refine ⟨⟨timed.opens, timed.closes⟩, rfl, rfl, ?_, rfl, ?_, ?_⟩
  · rw [clock]
    exact step
  · rw [time]
    exact Nat.le_add_right _ _
  · rw [time]
    dsimp only
    omega

theorem Step.of_vain {link link' : Link} {w w' : World P} {event : LinkEvent} {c : Connection}
    {spans : Spans} {heard : Nat} {frames : List RxFrame} (h : link.Step w event link' w')
    (connected : link.state = .connected c) (fit : spans.Fit)
    (follows : c.Follows spans w.radio.clock heard)
    (came : w'.radio.frames = w.radio.frames ++ frames) (vain : dataPdus frames = []) :
    ∃ check, w'.radio.clock.time = check + spans.step.toNat ∧ heard ≤ check ∧
      (spans.timeout.toNat < check - heard → link'.state = .advertising ∧
        ∃ elapsed, elapsed.toNat = check - heard ∧
          event = .connectionLost (.supervisionTimeout elapsed spans.timeout)) ∧
      (check - heard ≤ spans.timeout.toNat → link'.state.isConnected = true ∧
        ∀ error, event ≠ .connectionLost error) := by
  obtain ⟨heard', radio, new, i, j, hears, reacts, -⟩ := h.of_connected connected
  obtain ⟨past, elapsed⟩ := hears.elapsed follows fit
  have nothing : heardPdu? heard' = none := by
    rw [reacts.frames_eq, hears.frames_eq, List.append_cancel_left_eq] at came
    rw [← came, dataPdus_toList] at vain
    simpa using vain
  obtain ⟨clock, decided⟩ := reacts.of_vain nothing
  rw [Connection.nextEvent_lastRx, Connection.nextEvent_supervisionTicks, follows.timeout] at decided
  refine ⟨radio.clock.time, ?_, past, ?_⟩
  · rw [clock, Clock.afterReads_time, hears.clock_step, follows.step, Nat.one_mul]
  obtain ⟨recent, rfl, rfl⟩ | ⟨silent, rfl, rfl⟩ := decided
  · have recent := UInt32.le_iff_toNat_le.mp recent
    rw [elapsed] at recent
    constructor
    · intro silent
      omega
    · intro _
      exact ⟨rfl, Connection.report_ne_connectionLost _ _⟩
  · have silent := UInt32.lt_iff_toNat_lt.mp silent
    rw [elapsed] at silent
    constructor
    · intro _
      exact ⟨rfl, _, elapsed, rfl⟩
    · intro recent
      omega

/-- Supervision is exact in true time. While the link is connected it always makes its next
step, and if it accepts no well-formed data PDU in it, the connection is lost if and only if
more than the supervision timeout has passed, by the check, since the peer was last heard; the
time reported is the true time. -/
theorem supervision_exact {link₀ link link₁ : Link} {w₀ w w₁ : World P} {event₀ : LinkEvent}
    {stages : List Stage} {c₀ c₁ : Connection} (reached : Reachable link₀ w₀)
    (waiting : link₀.state = .connectRequest c₀) (moves : 1 ≤ w₀.radio.clock.step.toNat)
    (room : c₀.supervisionTicks.toNat + 4 * c₀.intervalTicks.toNat +
      link₀.config.tickRate.interFrameSpace.toNat + 16 * w₀.radio.clock.step.toNat < 4294967296)
    (established : link₀.Step w₀ event₀ link w) (run : Run link w stages link₁ w₁)
    (connected : ∀ stage ∈ stages, stage.before.state.isConnected = true)
    (stays : link₁.state = .connected c₁) :
    ∃ c since events heard, link.state = .connected c ∧ c.anchor = Time.tick since ∧
      w.radio.clock.time = since + w₀.radio.clock.step.toNat ∧
      w₁.radio.journal.toList = w.radio.journal.toList ++ events ∧
      heard = lastHeard since events ∧
      (∃ event link₂ w₂, link₁.Step w₁ event link₂ w₂) ∧
      ∀ event link₂ w₂ frames, link₁.Step w₁ event link₂ w₂ →
        w₂.radio.frames = w₁.radio.frames ++ frames → dataPdus frames = [] →
        ∃ check, w₂.radio.clock.time = check + w₀.radio.clock.step.toNat ∧ heard ≤ check ∧
          (c₀.supervisionTicks.toNat < check - heard → link₂.state = .advertising ∧
            ∃ elapsed, elapsed.toNat = check - heard ∧
              event = .connectionLost (.supervisionTimeout elapsed c₀.supervisionTicks)) ∧
          (check - heard ≤ c₀.supervisionTicks.toNat → link₂.state.isConnected = true ∧
            ∀ error, event ≠ .connectionLost error) := by
  obtain ⟨c, since, state, config, anchor, time, follows⟩ :=
    established.establishes reached waiting
  have fit : Spans.Fit ⟨c₀.supervisionTicks, c₀.intervalTicks,
      link₀.config.tickRate.interFrameSpace, w₀.radio.clock.step⟩ := room
  have follows : c.Follows ⟨c₀.supervisionTicks, c₀.intervalTicks,
      link₀.config.tickRate.interFrameSpace, w₀.radio.clock.step⟩ w.radio.clock
      (Hearing.mk since since).heard := follows
  obtain ⟨events, journal, follows₁, config₁⟩ :=
    run.follows state stays connected fit (by rw [config]) follows
  refine ⟨c, since, events, _, state, anchor, time, journal, rfl, ?_, ?_⟩
  · unfold Spans.Fit at fit
    dsimp only at fit
    have interval := follows₁.interval
    have step := follows₁.step
    dsimp only at interval step
    apply exists_step stays
    · rw [step]
      exact moves
    · exact follows₁.timed
    · rw [interval, step]
      omega
    · rw [config₁, config, step]
      omega
  · intro event link₂ w₂ frames made came vain
    exact made.of_vain stays fit follows₁ came vain

/-- The peer is heard once after the establishment; three missed windows later it is lost. -/
theorem supervision_exact_of_silence :
    ∃ (link₀ link link₁ link₂ : Link) (w₀ w w₁ w₂ : World ScriptedPeer) (event₀ event : LinkEvent)
      (stages : List Stage) (c₀ c₁ : Connection), Reachable link₀ w₀ ∧
      link₀.state = .connectRequest c₀ ∧ 1 ≤ w₀.radio.clock.step.toNat ∧
      c₀.supervisionTicks.toNat + 4 * c₀.intervalTicks.toNat +
        link₀.config.tickRate.interFrameSpace.toNat + 16 * w₀.radio.clock.step.toNat < 4294967296 ∧
      link₀.Step w₀ event₀ link w ∧ Run link w stages link₁ w₁ ∧ stages.length = 4 ∧
      (∀ stage ∈ stages, stage.before.state.isConnected = true) ∧ link₁.state = .connected c₁ ∧
      link₁.Step w₁ event link₂ w₂ ∧
      ∃ heard check elapsed, w₂.radio.clock.time = check + w₀.radio.clock.step.toNat ∧
        c₀.supervisionTicks.toNat < check - heard ∧ elapsed.toNat = check - heard ∧
        event = .connectionLost (.supervisionTimeout elapsed c₀.supervisionTicks) := by
  have passes : testConnecting {} [some ⟨100, [0x01, 0]⟩, some ⟨100, [0x09, 0]⟩]
      (fun link₀ w₀ => link₀.state.connection?.any (fun c₀ =>
          1 ≤ w₀.radio.clock.step.toNat &&
          c₀.supervisionTicks.toNat + 4 * c₀.intervalTicks.toNat +
            link₀.config.tickRate.interFrameSpace.toNat + 16 * w₀.radio.clock.step.toNat < 4294967296) &&
        LinkM.test link₀.step { w₀ with polls := 10 } fun outcome w =>
          testRun 500 (fun link₁ w₁ => link₁.state.isConnected &&
            LinkM.test link₁.step { w₁ with polls := 500 } fun outcome w₂ =>
              outcome.2.state = .advertising && w₂.radio.frames = w₁.radio.frames) 4 outcome.2 w) =
        true := by
    decide +kernel
  obtain ⟨link₀, w₀, c₀, reached, waiting, passes⟩ := Reachable.of_test passes
  rw [Bool.and_eq_true, waiting, LinkState.connection?, Option.any_some, Bool.and_eq_true,
    decide_eq_true_eq, decide_eq_true_eq] at passes
  obtain ⟨⟨moves, room⟩, passes⟩ := passes
  obtain ⟨event₀, link, w, established, passes⟩ := Step.of_test passes
  obtain ⟨stages, link₁, w₁, run, length, connected, passes⟩ := Run.of_test passes
  rw [Bool.and_eq_true] at passes
  obtain ⟨c₁, stays⟩ := LinkState.exists_of_isConnected passes.1
  obtain ⟨event, link₂, w₂, step, passes⟩ := Step.of_test passes.2
  rw [Bool.and_eq_true, decide_eq_true_eq, decide_eq_true_eq] at passes
  obtain ⟨c, since, events, heard, -, -, -, -, -, -, exact⟩ :=
    supervision_exact reached waiting moves room established run connected stays
  obtain ⟨check, time, past, silent, recent⟩ :=
    exact event link₂ w₂ [] step (by rw [passes.2, List.append_nil]) rfl
  have late : c₀.supervisionTicks.toNat < check - heard := by
    apply Nat.lt_of_not_le
    intro early
    have still := (recent early).1
    rw [passes.1] at still
    cases still
  obtain ⟨-, elapsed, gap, lost⟩ := silent late
  exact ⟨link₀, link, link₁, link₂, w₀, w, w₁, w₂, event₀, event, stages, c₀, c₁, reached, waiting,
    moves, room, established, run, length, connected, stays, step, heard, check, elapsed, time, late,
    gap, lost⟩

end Link

end BlePeripheral

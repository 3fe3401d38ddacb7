import BlePeripheral.Proofs.Channel.Hops
import BlePeripheral.Proofs.Link.Journal

/-! The schedule of a connection. A connection event moves the anchor by one interval, the event
counter by one and the selector by one hop, whatever is heard in it and whenever, so all three
are known from the request and the first anchor. -/

namespace BlePeripheral

namespace Connection

/-- What a connection holds `n` connection events after its first anchor. -/
structure Scheduled (c : Connection) (context : ConnectionContext) (rate : TickRate) (first : Tick)
    (n : Nat) : Prop where
  interval : c.intervalTicks = context.intervalTicks rate
  anchor : c.anchor.toNat =
    (first.toNat + n * (context.intervalTicks rate).toNat) % 4294967296
  counter : c.eventCounter.toNat = n % 65536
  selector : c.selector = .hopped context.used context.hopIncrement (n + 1)

theorem scheduled_established (context : ConnectionContext) (rate : TickRate) (frame : RxFrame)
    (anchor : Tick) :
    ((ofContext context rate).established frame anchor).Scheduled context rate anchor 0 := by
  refine ⟨rfl, ?_, rfl, ChannelSelector.next_initial _ _⟩
  have bound := anchor.toNat_lt
  rw [Nat.zero_mul, Nat.add_zero, Nat.mod_eq_of_lt bound]
  rfl

theorem Scheduled.after {c : Connection} {context : ConnectionContext} {rate : TickRate}
    {first : Tick} {n : Nat} (h : c.Scheduled context rate first n) (heard : Option RxFrame) :
    (c.nextEvent.after heard).Scheduled context rate first (n + 1) := by
  obtain ⟨_, _, _, after⟩ := c.nextEvent.after_eq heard
  rw [after]
  refine ⟨h.interval, ?_, ?_, ?_⟩
  · simp only [nextEvent, UInt32.toNat_add, h.interval, h.anchor, Nat.succ_mul]
    omega
  · simp only [nextEvent, UInt16.toNat_add, h.counter, UInt16.toNat_one]
    omega
  · simp only [nextEvent, h.selector, ChannelSelector.next_hopped]

theorem Scheduled.channel_eq {c : Connection} {context : ConnectionContext} {rate : TickRate}
    {first : Tick} {n : Nat} (h : c.Scheduled context rate first n) :
    c.channel = context.used.channelAt context.hopIncrement (n + 1) := by
  rw [channel, h.selector]
  rfl

end Connection

namespace Link

theorem HearingLog.listens_eq {channel : UInt8} {heard : Option RxFrame} {log : List RadioEvent}
    (h : HearingLog channel heard log) : log.filterMap RadioEvent.listenedOn? = [channel] := by
  cases h <;> rfl

theorem ReactionLog.listens_eq {link link' : Link} {kept : Connection} {log : List RadioEvent}
    (h : link.ReactionLog kept link' log) : log.filterMap RadioEvent.listenedOn? = [] := by
  cases h <;> rfl

variable {P : Type} [Peer P]

theorem Step.scheduled {link link' : Link} {w w' : World P} {event : LinkEvent} {c : Connection}
    {context : ConnectionContext} {rate : TickRate} {first : Tick} {n : Nat}
    (h : link.Step w event link' w') (connected : link.state = .connected c)
    (scheduled : c.Scheduled context rate first n) :
    ∃ log, w'.radio.journal.toList = w.radio.journal.toList ++ log ∧
      log.filterMap RadioEvent.listenedOn? =
        [context.used.channelAt context.hopIncrement (n + 2)] ∧
      ((∃ c', link'.state = .connected c' ∧ c'.Scheduled context rate first (n + 1)) ∨
        link'.state = .advertising) := by
  obtain ⟨heard, hearing, reaction, journal, listened, reacted⟩ := h.log_of_connected connected
  have next := scheduled.after heard
  refine ⟨hearing ++ reaction, journal, ?_, ?_⟩
  · rw [List.filterMap_append, listened.listens_eq, reacted.listens_eq, List.append_nil,
      ← Connection.after_channel c.nextEvent heard, next.channel_eq]
  · cases reacted with
    | silent => exact .inl ⟨_, rfl, next⟩
    | answered => exact .inl ⟨_, rfl, next⟩
    | lost => exact .inr rfl
    | terminated => exact .inr rfl

theorem Course.scheduled {link link' : Link} {w w' : World P} {stages : List Stage}
    {c c' : Connection} {context : ConnectionContext} {rate : TickRate} {first : Tick} {n : Nat}
    (course : Course link w stages link' w') (start : link.state = .connected c)
    (connected : ∀ stage ∈ stages, stage.before.state.isConnected = true)
    (stays : link'.state = .connected c') (scheduled : c.Scheduled context rate first n) :
    ∃ log, w'.radio.journal.toList = w.radio.journal.toList ++ log ∧
      log.filterMap RadioEvent.listenedOn? = (ChannelSelector.take stages.length
        (.hopped context.used context.hopIncrement (n + 1))).1 ∧
      c'.Scheduled context rate first (n + stages.length) := by
  induction course generalizing c n with
  | done pause =>
    rw [pause.link_eq, start] at stays
    cases stays
    exact ⟨[], by rw [pause.radio_eq, List.append_nil], rfl, scheduled⟩
  | @step link link₁ link₂ link' w w₁ w₂ w' event stages pause step rest ih =>
    have state : link₁.state = .connected c := by rw [pause.link_eq, start]
    have later := (List.forall_mem_cons.mp connected).2
    obtain ⟨log, journal, listened, made⟩ := step.scheduled state scheduled
    rw [pause.radio_eq] at journal
    obtain ⟨c₂, state₂, scheduled₂⟩ | ended := made
    · obtain ⟨log', journal', listened', scheduled'⟩ := ih state₂ later stays scheduled₂
      refine ⟨log ++ log', by rw [journal', journal, List.append_assoc], ?_, ?_⟩
      · rw [List.filterMap_append, listened, listened', List.length_cons, ChannelSelector.take,
          ChannelSelector.next_hopped]
        rfl
      · rw [List.length_cons, ← Nat.add_assoc, Nat.add_right_comm]
        exact scheduled'
    · have state' := rest.state_eq_of_ended later (by rw [ended]; rfl)
      rw [ended, stays] at state'
      cases state'

/-- The schedule of a connection in closed form. Its first event, which waits for a frame without
a window, is on the channel of one hop; `n` events after the first anchor the anchor is `n`
intervals on, the counter at `n`, and the channel that of `n + 1` hops. -/
theorem schedule_closed_form {link link₀ link' : Link} {w w₀ w' : World P} {event : LinkEvent}
    {setUp : Stage} {stages : List Stage} {c₀ c' : Connection}
    (advertising : link.state = .advertising) (requested : link.Step w event link₀ w₀) (waiting : link₀.state = .connectRequest c₀)
    (course : Course link₀ w₀ (setUp :: stages) link' w')
    (connected : ∀ stage ∈ stages, stage.before.state.isConnected = true)
    (stays : link'.state = .connected c') :
    ∃ frame header request used c log,
      w₀.radio.frames = w.radio.frames ++ [frame] ∧
      AdvPdu.ofBytes frame.bytes = .ok (.connectRequest header request) ∧
      UsedChannels.ofMap request.channelMap = .ok used ∧
      request.hopIncrement.toNat = request.hopSca.toNat % 32 ∧
      setUp.after.state = .connected c ∧
      w'.radio.journal.toList = w₀.radio.journal.toList ++ log ∧
      log.filterMap RadioEvent.listenedOn? = (List.range (stages.length + 1)).map
        (fun k => used.channelAt request.hopIncrement (k + 1)) ∧
      c'.channel = used.channelAt request.hopIncrement (stages.length + 1) ∧
      c'.anchor.toNat = (c.anchor.toNat + stages.length *
        (link.config.tickRate.ticksFor1250Us request.interval.toUInt32).toNat) % 4294967296 ∧
      c'.eventCounter.toNat = stages.length % 65536 := by
  obtain ⟨frame, context, came, asked, rfl⟩ := requested.requested advertising waiting
  obtain ⟨header, request, read, -, -, made⟩ := requested?_eq_some.mp asked
  obtain ⟨used, context_eq⟩ := ConnectionContext.ofRequest_eq_ok made
  have hop : context.hopIncrement = request.hopIncrement := by rw [context_eq]
  have interval : context.intervalTicks link.config.tickRate =
      link.config.tickRate.ticksFor1250Us request.interval.toUInt32 := by
    rw [context_eq]
    rfl
  cases course with
  | @step _ link₁ link₂ _ _ w₁ w₂ _ event stages pause establishes rest =>
    have state : link₁.state = .connectRequest (.ofContext context link.config.tickRate) := by
      rw [pause.link_eq, waiting]
    obtain ⟨first, anchor, pdu, opened, sent, journal, established⟩ :=
      establishes.log_of_connectRequest state
    rw [pause.radio_eq] at journal
    have scheduled :=
      Connection.scheduled_established context link.config.tickRate first anchor
    obtain ⟨log, journal', listened, scheduled'⟩ :=
      rest.scheduled established connected stays scheduled
    refine ⟨frame, header, request, context.used, _, _, came, read, used, ?_, established,
      by rw [journal', journal, List.append_assoc], ?_, ?_, ?_, ?_⟩
    · rw [ConnectRequest.hopIncrement, UInt8.toNat_and]
      exact Nat.and_two_pow_sub_one_eq_mod _ 5
    · -- The set-up made the first hop, and each event after it one more.
      have hops := congrArg Prod.fst
        (ChannelSelector.take_hopped context.used context.hopIncrement 0 (stages.length + 1))
      have setUp : (Connection.ofContext context link.config.tickRate).channel =
          context.used.channelAt context.hopIncrement 1 := scheduled.channel_eq
      simp only [Nat.zero_add, ChannelSelector.take, ChannelSelector.next_hopped] at hops
      rw [List.filterMap_append, listened, setUp, ← hop, ← hops]
      rfl
    · rw [scheduled'.channel_eq, hop, Nat.zero_add]
    · rw [scheduled'.anchor, interval, Nat.zero_add]
      rfl
    · rw [scheduled'.counter, Nat.zero_add]

/-- Three connection events: a PDU, a malformed frame and a missed window. -/
theorem schedule_closed_form_of_mixed :
    ∃ (link link₀ link' : Link) (w w₀ w' : World ScriptedPeer) (event : LinkEvent) (setUp : Stage)
      (stages : List Stage) (c₀ c c' : Connection), link.state = .advertising ∧
      link.Step w event link₀ w₀ ∧ link₀.state = .connectRequest c₀ ∧
      Course link₀ w₀ (setUp :: stages) link' w' ∧ stages.length = 3 ∧
      (∀ stage ∈ stages, stage.before.state.isConnected = true) ∧
      setUp.after.state = .connected c ∧ link'.state = .connected c' ∧
      ∃ (used : UsedChannels) (request : ConnectRequest) (log : List RadioEvent),
        w'.radio.journal.toList = w₀.radio.journal.toList ++ log ∧
        log.filterMap RadioEvent.listenedOn? =
          [1, 2, 3, 4].map (used.channelAt request.hopIncrement) ∧
        c'.anchor.toNat = (c.anchor.toNat + 3 *
          (link.config.tickRate.ticksFor1250Us request.interval.toUInt32).toNat) % 4294967296 ∧
        c'.eventCounter.toNat = 3 := by
  have passes : testStart {}
      [some ⟨100, [0x01, 0]⟩, some ⟨100, [0x09, 0]⟩, some ⟨100, [0x01]⟩] 0
      (fun link w => link.state = .advertising &&
        LinkM.test link.step { w with polls := 10 } fun outcome w₀ =>
          outcome.2.state.phase = .connectRequest &&
          LinkM.test outcome.2.step { w₀ with polls := 10 } fun outcome w₁ =>
            testRun 500 (fun link' _ => link'.state.isConnected) 3 outcome.2 w₁) = true := by
    decide +kernel
  obtain ⟨link, w, -, passes⟩ := start_of_test passes
  rw [Bool.and_eq_true, decide_eq_true_eq] at passes
  obtain ⟨advertising, passes⟩ := passes
  obtain ⟨event, link₀, w₀, requested, passes⟩ := Step.of_test passes
  rw [Bool.and_eq_true, decide_eq_true_eq] at passes
  obtain ⟨phase, passes⟩ := passes
  obtain ⟨c₀, waiting⟩ := LinkState.exists_of_phase phase
  obtain ⟨event₁, link₁, w₁, established, passes⟩ := Step.of_test passes
  obtain ⟨stages, link', w', run, length, connected, passes⟩ := Run.of_test passes
  obtain ⟨c', stays⟩ := LinkState.exists_of_isConnected passes
  have course : Course link₀ w₀ (⟨link₀, event₁, link₁⟩ :: stages) link' w' :=
    .step (.refl link₀ w₀) established run.course
  obtain ⟨frame, header, request, used, c, log, -, -, -, -, first, journal, listened, -, anchor,
    counter⟩ := schedule_closed_form advertising requested waiting course connected stays
  rw [length] at listened anchor counter
  exact ⟨link, link₀, link', w, w₀, w', event, _, stages, c₀, c, c', advertising, requested, waiting,
    course, length, connected, first, stays, used, request, log, journal, listened, anchor, counter⟩

end Link

end BlePeripheral

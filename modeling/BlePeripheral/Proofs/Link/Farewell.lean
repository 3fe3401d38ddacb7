import BlePeripheral.Proofs.Link.Admission
import BlePeripheral.Proofs.Link.Encounter
import BlePeripheral.Proofs.Link.Ends
import BlePeripheral.Proofs.Link.LockStep

/-! What a link reports of an encounter. Each step reports what comes next in the script, and at
the end of it the farewell; after that the central has nothing more to say. So a run goes by the
script as far as it gets, and since no step waits in vain there is one that gets to the end. -/

namespace BlePeripheral

namespace Encounter

variable {e : Encounter}

inductive Position (e : Encounter) (link : Link) (w : World Central) : List LinkEvent → Prop
  | greeting (advertising : link.state = .advertising) (first : link.advIndex = 0)
      (plays : e.Plays w.radio.peer .scanning 0) : Position e link w e.script
  | request (advertising : link.state = .advertising) (plays : e.Plays w.radio.peer .connecting 0) :
      Position e link w (.connectRequested Central.address Central.accessAddress 7 ::
        .connected Central.accessAddress 7 :: (e.exchangesAfter 0 ++ e.missesAfter 0))
  | setUp
      (waiting : link.state = .connectRequest (.ofContext e.central.context e.config.tickRate))
      (plays : e.Plays w.radio.peer .connecting 0) :
      Position e link w (.connected Central.accessAddress 7 ::
        (e.exchangesAfter 0 ++ e.missesAfter 0))
  | exchange {c : Connection} (k : Nat) (within : k < e.limit.toNat)
      (connected : link.state = .connected c) (plays : e.Plays w.radio.peer .connected (k + 1))
      (keeps : e.Keeps c w.radio.clock k 0) :
      Position e link w (e.exchangesAfter k ++ e.missesAfter 0)
  | miss {c : Connection} (k : Nat) (few : k ≤ 6) (silent : e.terminates = false)
      (connected : link.state = .connected c) (plays : e.Plays w.radio.peer .gone e.limit.toNat)
      (keeps : e.Keeps c w.radio.clock (e.limit.toNat - 1 + k) k) :
      Position e link w (e.missesAfter k)

/-- The link goes by the script that is left. -/
structure Awaits (e : Encounter) (link : Link) (w : World Central) (script : List LinkEvent) :
    Prop where
  config : link.config = e.config
  prepares : e.config.prepare = .ok link.prepared
  controls : link.controls = e.handlers
  unit : w.radio.clock.step = 1
  rest : link.AtRest w.radio
  meets : ∃ left, Link.Meets link.state w.radio.peer left
  position : e.Position link w script

variable {link link' : Link} {w u : World Central} {event : LinkEvent} {script : List LinkEvent}

theorem Awaits.next {rest : List LinkEvent} (h : e.Awaits link w script)
    (step : link.Step w event link' u) (position : e.Position link' u rest) :
    e.Awaits link' u rest := by
  obtain ⟨config, prepared, controls⟩ := step.setup_eq
  obtain ⟨left, meets⟩ := h.meets
  obtain ⟨⟨left', meets', -⟩, -⟩ := step.meets h.rest meets
  exact ⟨config.trans h.config, by rw [prepared]; exact h.prepares, controls.trans h.controls,
    by rw [step.clock_step, h.unit], step.atRest h.rest, ⟨left', meets'⟩, position⟩

theorem Awaits.step_toNat (h : e.Awaits link w script) : w.radio.clock.step.toNat = 1 := by
  rw [h.unit]
  rfl

theorem Awaits.ne_nonConnectable (h : e.Awaits link w script) (fits : e.Fits) :
    link.config.mode ≠ .nonConnectable := by
  rw [h.config, fits.connectable]
  decide

theorem Awaits.tuned (h : e.Awaits link w script) (advertising : link.state = .advertising) :
    w.radio.accessAddress = advAccessAddress := by
  have tuned := h.rest.rests.tuned
  rwa [advertising] at tuned

theorem Awaits.hears_request {radio' : Radio Central} {heard : Option RxFrame} {n : Nat}
    {bytes : Bytes} (h : e.Awaits link w script) (fits : e.Fits)
    (advertising : link.state = .advertising)
    (advertises : link.Advertises (w.radio.afterReads n) heard event link' radio')
    (offers : w.radio.peer.advertisingReply.1.delivery =
      some ⟨e.config.tickRate.interFrameSpace, bytes⟩) :
    (∃ frame, heard = some frame ∧ frame.bytes = bytes) ∧
      radio'.peer = w.radio.peer.advertisingReply.2 := by
  obtain ⟨ticking, counted, space, long⟩ := fits.ticks
  have tuned : (w.radio.afterReads n).accessAddress = advAccessAddress := h.tuned advertising
  have step : (w.radio.afterReads n).clock.step.toNat = 1 := h.step_toNat
  have offer := link.offer_advertisement tuned
  -- The central takes an inter-frame space to answer, and the window is longer than that.
  have came := advertises.of_offer (h.ne_nonConnectable fits)
    (by rw [offer]; exact offers) (by rw [step, h.config]; dsimp only; omega)
  refine ⟨came, ?_⟩
  obtain ⟨frame, rfl, -⟩ := came
  obtain ⟨silent, -⟩ | ⟨taken, -⟩ := advertises.central tuned
  · cases silent
  · exact taken

theorem Awaits.of_greeting (h : e.Awaits link w script) (fits : e.Fits)
    (step : link.Step w event link' u) (advertising : link.state = .advertising)
    (first : link.advIndex = 0) (plays : e.Plays w.radio.peer .scanning 0) :
    event = e.greeting ∧ link'.state = .advertising ∧ e.Plays u.radio.peer .connecting 0 := by
  obtain ⟨n, heard, -, advertises, reports⟩ := step.advertises advertising
  have reply := Central.advertisingReply_of_scanning plays.phase
  have offers : w.radio.peer.advertisingReply.1.delivery =
      some ⟨e.config.tickRate.interFrameSpace, w.radio.peer.scanFrame⟩ := by
    rw [reply, plays.replyDelay]
  obtain ⟨⟨frame, rfl, bytes⟩, taken⟩ := h.hears_request fits advertising advertises offers
  obtain ⟨now, a, b, answered⟩ := reports frame rfl
  have read := w.radio.peer.ofBytes_scanFrame
  rw [← bytes] at read
  have ours : w.radio.peer.target = link.config.address := by rw [plays.target, h.config]
  have scannable : link.config.mode.pduType.isScannable = true := by
    rw [h.config, fits.connectable]
    rfl
  have event_eq :=
    (link.advertisedAt now).answer_event_of_scanRequest read (by exact ours) (by exact scannable)
      answered
  refine ⟨?_, ?_, ?_⟩
  · have response : link.prepared.scanResponse.isSome = true ↔ e.config.scanResponseData ≠ [] :=
      LinkConfig.isSome_scanResponse h.prepares
    have channel : Link.advChannel link.advIndex = 37 := by
      rw [first]
      rfl
    rw [event_eq, channel, greeting]
    show (if link.prepared.scanResponse.isSome = true then _ else _) = _
    by_cases data : e.config.scanResponseData = []
    · rw [if_pos data, if_neg (by simpa [data] using response)]
    · rw [if_neg data, if_pos (response.mpr data)]
  · rw [advertises.link_eq]
    show (Link.withRequested _ (link.requested? frame.bytes)).state = _
    rw [bytes, Link.requested?_scanFrame]
    exact advertising
  · rw [taken, reply]
    exact ⟨plays.target, plays.replyDelay, plays.dropAfter, plays.terminates, rfl, plays.sent⟩

theorem channel_ofContext (e : Encounter) :
    (Connection.ofContext e.central.context e.config.tickRate).channel = 7 := by
  have first := Connection.scheduled_established e.central.context e.config.tickRate ⟨[], 0⟩ 0
  have channel := first.channel_eq
  rw [Central.channelAt_context] at channel
  exact channel

theorem Awaits.of_request (h : e.Awaits link w script) (fits : e.Fits)
    (step : link.Step w event link' u) (advertising : link.state = .advertising)
    (plays : e.Plays w.radio.peer .connecting 0) :
    event = .connectRequested Central.address Central.accessAddress 7 ∧
      link'.state = .connectRequest (.ofContext e.central.context e.config.tickRate) ∧
      e.Plays u.radio.peer .connecting 0 := by
  obtain ⟨n, heard, advertises⟩ := step.of_advertising advertising
  have reply := Central.advertisingReply_of_connecting plays.phase
  have offers : w.radio.peer.advertisingReply.1.delivery =
      some ⟨e.config.tickRate.interFrameSpace, w.radio.peer.connectFrame⟩ := by
    rw [reply, plays.replyDelay]
  obtain ⟨⟨frame, rfl, bytes⟩, taken⟩ := h.hears_request fits advertising advertises offers
  have asked : link.requested? frame.bytes = some e.central.context := by
    rw [bytes, ← plays.context]
    refine Link.requested?_eq_some.mpr ⟨_, _, w.radio.peer.ofBytes_connectFrame, ?_, ?_,
      w.radio.peer.ofRequest_params⟩
    · show w.radio.peer.target = _
      rw [plays.target, h.config]
    · rw [h.config, fits.connectable]
      rfl
  refine ⟨?_, ?_, ?_⟩
  · rw [advertises.event_of_requested asked, h.config, e.channel_ofContext]
    rfl
  · rw [advertises.link_eq, Option.bind_some, asked, ← h.config]
    rfl
  · rw [taken, reply]
    exact plays

theorem Awaits.of_setUp (h : e.Awaits link w script) (fits : e.Fits)
    (step : link.Step w event link' u)
    (waiting : link.state = .connectRequest (.ofContext e.central.context e.config.tickRate))
    (plays : e.Plays w.radio.peer .connecting 0) :
    event = .connected Central.accessAddress 7 ∧ ∃ c, link'.state = .connected c ∧
      e.Plays u.radio.peer .connected 1 ∧ e.Keeps c u.radio.clock 0 0 := by
  obtain ⟨-, plays'⟩ := plays.busy (.inl rfl) fits.limit_pos
  obtain ⟨frame, n, m, establishes, same⟩ := step.setsUp waiting
  obtain ⟨-, taken⟩ := establishes.central rfl
  refine ⟨?_, _, by rw [same], by rw [taken]; exact plays' _, ?_⟩
  · rw [step.event_of_connectRequest waiting, e.channel_ofContext]
    rfl
  · obtain ⟨ticking, counted, -⟩ := fits.ticks
    have times : Central.Times (.ofContext e.central.context e.config.tickRate)
        e.config.tickRate.ticksPerUs.toNat := e.central.times_ofContext counted
    have interval := times.interval
    -- The anchor is the last reading but one, and counts as the time of the first frame.
    obtain ⟨anchor, begun⟩ : ∃ anchor, anchor = ((link.greeted
      (.ofContext e.central.context e.config.tickRate) w.radio frame n).clock.afterReads
        (m + 1)).time := ⟨_, rfl⟩
    have time : u.radio.clock.time = anchor + 1 * w.radio.clock.step.toNat := by
      rw [establishes.radio_eq, begun]
      rfl
    rw [h.step_toNat] at time
    refine ⟨⟨_, Connection.scheduled_established _ _ frame _⟩, rfl, rfl, rfl, anchor, anchor,
      ⟨by rw [establishes.readsTo.step_eq, h.unit], by rw [begun]; rfl, by omega, ?_⟩,
      by rw [begun]; rfl, by omega, by omega⟩
    show _ ≤ _ + (Connection.ofContext e.central.context e.config.tickRate).intervalTicks.toNat
    omega

theorem Awaits.of_connected {c : Connection} (h : e.Awaits link w script)
    (step : link.Step w event link' u) (connected : link.state = .connected c) :
    ∃ heard radio new i j, Link.Hears c w.radio heard radio i j ∧
      link.Reacts c.nextEvent radio heard event link' u.radio new ∧
      (w.radio.afterReads (i + 1 + (j + 1))).offer c.nextEvent.channel = w.radio.peer.dataReply ∧
      (∃ ack, u.radio.peer = { w.radio.peer.dataReply.2 with ack }) ∧
      AckState.InStep w.radio.peer.ack c.ack := by
  obtain ⟨heard, radio, new, i, j, hears, reacts, -⟩ := step.of_connected connected
  obtain ⟨left, meets⟩ := h.meets
  have tuned := h.rest.rests.tuned
  rw [connected] at meets tuned
  cases meets with
  | inStep met addressed inStep =>
    have tuned : w.radio.accessAddress = Central.accessAddress := tuned.trans addressed
    obtain ⟨tuned', spoken, -⟩ := hears.central tuned
    obtain ⟨ack, peer⟩ := reacts.central tuned'
    exact ⟨heard, radio, new, i, j, hears, reacts, Central.offer_connection (by exact tuned) _,
      ⟨ack, by rw [peer, spoken]⟩, inStep⟩

theorem Awaits.of_exchange {c : Connection} {k : Nat} (h : e.Awaits link w script) (fits : e.Fits)
    (step : link.Step w event link' u) (more : k + 1 < e.limit.toNat)
    (connected : link.state = .connected c) (plays : e.Plays w.radio.peer .connected (k + 1))
    (keeps : e.Keeps c w.radio.clock k 0) :
    event = exchange (k + 1) ∧ ∃ c', link'.state = .connected c' ∧
      e.Plays u.radio.peer .connected (k + 2) ∧ e.Keeps c' u.radio.clock (k + 1) 0 := by
  obtain ⟨heard, radio, new, i, j, hears, reacts, offer, ⟨ack, peer⟩, inStep⟩ :=
    h.of_connected step connected
  obtain ⟨delivery, plays'⟩ := plays.busy (.inr rfl) more
  have read : DataPdu.ofBytes (w.radio.peer.dataFrame .dataContinue []) = .ok _ :=
    w.radio.peer.ofBytes_dataFrame .dataContinue (by decide)
  obtain ⟨frame, rfl, bytes, keeps'⟩ :=
    keeps.accepted fits hears (by rw [offer]; exact delivery) read
  rw [← bytes] at read
  have data : c.nextEvent.ack.newControl? (w.radio.peer.dataPdu .dataContinue []) = none := by
    rw [AckState.newControl?, Central.llid_dataPdu]
    simp
  obtain ⟨rfl, rfl, n, before, clock⟩ := reacts.of_data read data
  refine ⟨?_, _, rfl, by rw [peer]; exact plays' ack, ?_⟩
  · have isNew : c.nextEvent.ack.isNew (w.radio.peer.dataPdu .dataContinue []).header = true :=
      (inStep.exchange (by simp) (by simp)).1
    simp only [Connection.report, read, isNew, keeps.channel, Central.llid_dataPdu, exchange]
    rfl
  · rw [clock]
    exact keeps' n (by rw [← h.config]; exact before)

theorem Awaits.of_farewell {c : Connection} {k : Nat} (h : e.Awaits link w script) (fits : e.Fits)
    (step : link.Step w event link' u) (last : k + 1 = e.limit.toNat)
    (terminates : e.terminates = true) (connected : link.state = .connected c)
    (plays : e.Plays w.radio.peer .connected (k + 1)) (keeps : e.Keeps c w.radio.clock k 0) :
    event = .terminated (some 0x13) ∧ link'.state = .advertising := by
  obtain ⟨heard, radio, new, i, j, hears, reacts, offer, -, inStep⟩ := h.of_connected step connected
  rw [last] at plays
  have delivery := plays.terminating terminates
  have read : DataPdu.ofBytes (w.radio.peer.dataFrame .control Central.terminatePayload) = .ok _ :=
    w.radio.peer.ofBytes_dataFrame .control (by decide)
  obtain ⟨frame, rfl, bytes, -⟩ := keeps.accepted fits hears (by rw [offer]; exact delivery) read
  rw [← bytes] at read
  have asks : c.nextEvent.ack.newControl? (w.radio.peer.dataPdu .control Central.terminatePayload) =
      some ⟨.terminateInd, [0x13]⟩ := by
    have isNew : c.nextEvent.ack.isNew
        (w.radio.peer.dataPdu .control Central.terminatePayload).header = true :=
      (inStep.exchange (by simp) (by simp)).1
    rw [AckState.newControl?, Central.llid_dataPdu, isNew]
    rfl
  have ends : (link.controls.dispatch ⟨.terminateInd, [0x13]⟩ c.nextEvent.context).1 = .terminate := by
    rw [h.controls]
    rfl
  obtain ⟨rfl, rfl⟩ := reacts.of_terminating read asks ends
  exact ⟨rfl, rfl⟩

theorem Awaits.of_silence {c : Connection} {k : Nat} (h : e.Awaits link w script) (fits : e.Fits)
    (step : link.Step w event link' u) (few : k ≤ 6) (terminates : e.terminates = false)
    (connected : link.state = .connected c) (silent : w.radio.peer.dataReply.1.delivery = none)
    (gone : ∀ ack, e.Plays { w.radio.peer.dataReply.2 with ack } .gone e.limit.toNat)
    (keeps : e.Keeps c w.radio.clock (e.limit.toNat - 1 + k) k) :
    (k < 6 ∧ event = e.miss (k + 1) ∧ e.Position link' u (e.missesAfter (k + 1))) ∨
    (k = 6 ∧ link'.state = .advertising ∧ ∃ elapsed, event = .connectionLost (.supervisionTimeout
      elapsed (UInt32.ofNat (200000 * e.config.tickRate.ticksPerUs.toNat)))) := by
  obtain ⟨heard, radio, new, i, j, hears, reacts, offer, ⟨ack, peer⟩, -⟩ :=
    h.of_connected step connected
  obtain ⟨rfl, recent, keeps'⟩ := keeps.check fits few hears (by rw [offer]; exact silent)
  have plays : e.Plays u.radio.peer .gone e.limit.toNat := by
    rw [peer]
    exact gone ack
  generalize after : u.radio = radio' at reacts
  cases reacts with
  | stands _ inTime =>
    have more : k < 6 := recent.mp inTime
    have missed : c.missed + 1 = UInt32.ofNat (k + 1) := keeps'.counted
    refine .inl ⟨more, ?_, .miss (k + 1) more terminates rfl plays (by rw [after]; exact keeps')⟩
    show LinkEvent.eventMissed (.windowMiss c.nextEvent.eventCounter) (c.missed + 1) = _
    rw [missed, keeps.counter]
    rfl
  | lost _ late =>
    have full : ¬ k < 6 := fun fewer => absurd (recent.mpr fewer) (UInt32.not_le.mpr late)
    have budget : UInt32.ofNat (200000 * e.config.tickRate.ticksPerUs.toNat) =
        c.supervisionTicks := by
      rw [← (keeps.times fits).timeout, UInt32.ofNat_toNat]
    rw [budget]
    exact .inr ⟨by omega, rfl, _, rfl⟩

structure Parted (link : Link) (w : World Central) : Prop where
  rest : link.AtRest w.radio
  advertising : link.state = .advertising
  met : w.radio.peer.HasMet

theorem Parted.step (h : Parted link w) (step : link.Step w event link' u) :
    event.keepsAdvertising = true ∧ Parted link' u := by
  have meets : Link.Meets link.state w.radio.peer 0 := by
    rw [h.advertising]
    exact .parted h.met
  obtain ⟨⟨left, meets', cost⟩, -⟩ := step.meets h.rest meets
  have noRequest : event.isRequest = false := by
    rw [← Bool.not_eq_true]
    intro request
    rw [if_pos request] at cost
    omega
  have next := step.next
  rw [h.advertising] at next
  cases state : link'.state with
  | advertising =>
    rw [state] at next meets'
    cases next with
    | advertising keeps =>
      cases meets' with
      | looking => omega
      | parted met => exact ⟨keeps, step.atRest h.rest, state, met⟩
  | connectRequest c =>
    rw [state] at next
    cases next
    cases noRequest
  | connected c =>
    rw [state] at next
    cases next

theorem Parted.run {last : Link} {w' : World Central} {stages : List Stage} (h : Parted link w)
    (run : Link.Run link w stages last w') :
    ∀ event ∈ stages.map Stage.event, event.keepsAdvertising = true := by
  induction run with
  | nil => simp
  | cons step _ ih =>
    obtain ⟨keeps, parted⟩ := h.step step
    exact List.forall_mem_cons.mpr ⟨keeps, ih parted⟩

theorem Awaits.parted {c : Connection} (h : e.Awaits link w script)
    (step : link.Step w event link' u) (connected : link.state = .connected c)
    (advertising : link'.state = .advertising) : Parted link' u := by
  obtain ⟨left, meets⟩ := h.meets
  obtain ⟨⟨left', meets', cost⟩, -⟩ := step.meets h.rest meets
  rw [connected] at meets
  rw [advertising] at meets'
  cases meets
  cases meets' with
  | looking => omega
  | parted met => exact ⟨step.atRest h.rest, advertising, met⟩

/-- A step reports what comes next in the script, or the farewell at the end of it. -/
theorem Awaits.step (h : e.Awaits link w script) (fits : e.Fits)
    (step : link.Step w event link' u) :
    (∃ rest, script = event :: rest ∧ e.Awaits link' u rest) ∨
      (script = [] ∧ e.IsFarewell event ∧ Parted link' u) := by
  cases h.position with
  | greeting advertising first plays =>
    obtain ⟨rfl, advertising', plays'⟩ := h.of_greeting fits step advertising first plays
    exact .inl ⟨_, rfl, h.next step (.request advertising' plays')⟩
  | request advertising plays =>
    obtain ⟨rfl, waiting, plays'⟩ := h.of_request fits step advertising plays
    exact .inl ⟨_, rfl, h.next step (.setUp waiting plays')⟩
  | setUp waiting plays =>
    obtain ⟨rfl, c, connected, plays', keeps⟩ := h.of_setUp fits step waiting plays
    exact .inl ⟨_, rfl, h.next step (.exchange 0 fits.limit_pos connected plays' keeps)⟩
  | exchange k within connected plays keeps =>
    obtain more | last := Nat.lt_or_eq_of_le (Nat.succ_le_of_lt within)
    · obtain ⟨rfl, c', connected', plays', keeps'⟩ :=
        h.of_exchange fits step more connected plays keeps
      rw [exchangesAfter_of_lt more]
      exact .inl ⟨_, rfl, h.next step (.exchange (k + 1) more connected' plays' keeps')⟩
    rw [exchangesAfter_of_eq last, List.nil_append]
    cases terminates : e.terminates with
    | true =>
      obtain ⟨rfl, advertising⟩ := h.of_farewell fits step last terminates connected plays keeps
      refine .inr ⟨missesAfter_of_terminates terminates 0, ?_, h.parted step connected advertising⟩
      rw [IsFarewell, if_pos terminates]
    | false =>
      rw [Nat.succ_eq_add_one] at last
      rw [last] at plays
      obtain ⟨silent, gone⟩ := plays.silent terminates
      obtain rfl : k = e.limit.toNat - 1 + 0 := by omega
      obtain ⟨-, rfl, position⟩ | ⟨impossible, -⟩ :=
        h.of_silence fits step (Nat.zero_le 6) terminates connected silent gone keeps
      · rw [missesAfter_of_lt terminates (by decide)]
        exact .inl ⟨_, rfl, h.next step position⟩
      · cases impossible
  | miss k few terminates connected plays keeps =>
    obtain ⟨silent, gone⟩ := plays.gone
    obtain ⟨more, rfl, position⟩ | ⟨rfl, advertising, lost⟩ :=
      h.of_silence fits step few terminates connected silent gone keeps
    · rw [missesAfter_of_lt terminates more]
      exact .inl ⟨_, rfl, h.next step position⟩
    · refine .inr ⟨missesAfter_six, ?_, h.parted step connected advertising⟩
      have stays : ¬ e.terminates = true := by rw [terminates]; exact Bool.false_ne_true
      rw [IsFarewell, if_neg stays]
      exact lost

theorem Awaits.room (h : e.Awaits link w script) (fits : e.Fits) :
    link.config.tickRate.interFrameSpace.toNat + w.radio.clock.step.toNat ≤ 4294967296 := by
  obtain ⟨_, _, space, -⟩ := fits.ticks
  rw [h.config, h.step_toNat, space]
  omega

theorem Awaits.exists_step_of_advertising {bytes : Bytes} (h : e.Awaits link w script)
    (fits : e.Fits) (advertising : link.state = .advertising)
    (offers : w.radio.peer.advertisingReply.1.delivery =
      some ⟨e.config.tickRate.interFrameSpace, bytes⟩) :
    ∃ event link' u, link.Step w event link' u := by
  obtain ⟨_, _, space, -⟩ := fits.ticks
  have step := h.step_toNat
  have interval := (link.config.tickRate.ticksForMs link.config.advIntervalMs).toNat_lt
  have tuned := h.tuned advertising
  have offers' (n : Nat) : ((link.advertisement (w.radio.afterReads n)).offer
      (Link.advChannel link.advIndex)).1.delivery =
      some ⟨e.config.tickRate.interFrameSpace, bytes⟩ := by
    rw [link.offer_advertisement (by exact tuned)]
    exact offers
  apply Link.exists_step_of_act
  unfold Link.act
  rw [advertising]
  exact Link.advertise_ends (by omega) (by omega) offers' (by dsimp only; omega) (h.room fits)

theorem Awaits.exists_step_of_connected {c : Connection} {events missed : Nat}
    (h : e.Awaits link w script) (fits : e.Fits) (connected : link.state = .connected c)
    (keeps : e.Keeps c w.radio.clock events missed) : ∃ event link' u, link.Step w event link' u := by
  obtain ⟨_, counted, -⟩ := fits.ticks
  have step := h.step_toNat
  have interval := (keeps.times fits).interval
  exact Link.exists_step connected (by omega) keeps.timed (by omega) (h.room fits)

theorem Awaits.exists_step (h : e.Awaits link w script) (fits : e.Fits) :
    ∃ event link' u, link.Step w event link' u := by
  cases h.position with
  | greeting advertising first plays =>
    have reply := Central.advertisingReply_of_scanning plays.phase
    exact h.exists_step_of_advertising fits advertising (by rw [reply, plays.replyDelay])
  | request advertising plays =>
    have reply := Central.advertisingReply_of_connecting plays.phase
    exact h.exists_step_of_advertising fits advertising (by rw [reply, plays.replyDelay])
  | setUp waiting plays =>
    obtain ⟨_, _, space, -⟩ := fits.ticks
    have step := h.step_toNat
    obtain ⟨delivery, -⟩ := plays.busy (.inl rfl) fits.limit_pos
    apply Link.exists_step_of_act
    unfold Link.act
    rw [waiting]
    refine Link.establish_ends (by omega) (.trans ?_ delivery) (by dsimp only; omega) (h.room fits)
    rw [Central.offer_connection (by rfl)]
    rfl
  | exchange k within connected plays keeps => exact h.exists_step_of_connected fits connected keeps
  | miss k few silent connected plays keeps => exact h.exists_step_of_connected fits connected keeps

theorem Awaits.exists_run (h : e.Awaits link w script) (fits : e.Fits) :
    ∃ stages last w' farewell, Link.Run link w stages last w' ∧
      stages.map Stage.event = script ++ [farewell] ∧ e.IsFarewell farewell ∧
      last.state = .advertising := by
  induction script generalizing link w with
  | nil =>
    obtain ⟨event, link', u, step⟩ := h.exists_step fits
    obtain ⟨_, impossible, -⟩ | ⟨-, farewell, parted⟩ := h.step fits step
    · cases impossible
    · exact ⟨_, _, _, event, .cons step (.nil _ _), rfl, farewell, parted.advertising⟩
  | cons next script ih =>
    obtain ⟨event, link', u, step⟩ := h.exists_step fits
    obtain ⟨rest, same, awaits⟩ | ⟨impossible, -⟩ := h.step fits step
    · cases same
      obtain ⟨stages, last, w', farewell, run, events, rest⟩ := ih awaits
      exact ⟨_, last, w', farewell, .cons step run, by rw [List.map_cons, events]; rfl, rest⟩
    · cases impossible

theorem Awaits.run {last : Link} {w' : World Central} {stages : List Stage}
    (h : e.Awaits link w script) (fits : e.Fits) (run : Link.Run link w stages last w') :
    stages.map Stage.event <+: script ∨ ∃ farewell after,
      stages.map Stage.event = script ++ farewell :: after ∧ e.IsFarewell farewell ∧
      ∀ event ∈ after, event.keepsAdvertising = true := by
  induction run generalizing script with
  | nil => exact .inl List.nil_prefix
  | @cons link link₁ last w w₁ w' event stages step rest ih =>
    obtain ⟨left, rfl, awaits⟩ | ⟨rfl, farewell, parted⟩ := h.step fits step
    · obtain before | ⟨farewell, after, events, ends⟩ := ih awaits
      · exact .inl (List.cons_prefix_cons.mpr ⟨rfl, before⟩)
      · exact .inr ⟨farewell, after, by rw [List.map_cons, events]; rfl, ends⟩
    · exact .inr ⟨event, stages.map Stage.event, rfl, farewell, parted.run rest⟩

/-- A link that meets the central can go through the whole script and the farewell. Nothing else
can come of the encounter, and afterwards the central never connects again. -/
theorem runs_to_farewell (e : Encounter) (fits : e.Fits) {prepared : PreparedPdus}
    (prepares : e.config.prepare = .ok prepared) (first : Nat) :
    ∃ link w, Link.start e.config e.handlers { clock := ⟨first, 1⟩, peer := e.central } =
        .ok (link, w) ∧
      (∃ stages last w' farewell, Link.Run link w stages last w' ∧
        stages.map Stage.event = e.script ++ [farewell] ∧ e.IsFarewell farewell ∧
        last.state = .advertising) ∧
      ∀ stages last w', Link.Run link w stages last w' →
        stages.map Stage.event <+: e.script ∨ ∃ farewell after,
          stages.map Stage.event = e.script ++ farewell :: after ∧ e.IsFarewell farewell ∧
          ∀ event ∈ after, event.keepsAdvertising = true := by
  obtain ⟨⟨link, w⟩, started⟩ : ∃ outcome, Link.start e.config e.handlers
      { clock := ⟨first, 1⟩, peer := e.central } = .ok outcome := ⟨_, by
    rw [Link.start, prepares]
    rfl⟩
  have rest := Link.atRest_of_start started
  have awaits : e.Awaits link w e.script := by
    obtain ⟨prepared', prepares', rfl, rfl⟩ := Link.start_eq_ok.mp started
    exact ⟨rfl, prepares', rfl, rfl, rest, ⟨1, .looking (.inl rfl) rfl⟩,
      .greeting rfl rfl ⟨rfl, rfl, rfl, rfl, rfl, rfl⟩⟩
  exact ⟨link, w, started, awaits.exists_run fits, fun _ _ _ run => awaits.run fits run⟩

/-- The tick rate is the highest, the tick counter is about to wrap, and the central falls silent
after its second PDU. -/
theorem runs_to_farewell_of_silent_central :
    ∃ (e : Encounter) (prepared : PreparedPdus), e.Fits ∧ e.config.prepare = .ok prepared ∧
      e.config.tickRate = ⟨10000⟩ ∧ e.terminates = false ∧
      e.script = [.scanResponseSent 37 Central.address,
        .connectRequested Central.address Central.accessAddress 7,
        .connected Central.accessAddress 7, .dataReceived 14 .dataContinue 0 false,
        .eventMissed (.windowMiss 2) 1, .eventMissed (.windowMiss 3) 2,
        .eventMissed (.windowMiss 4) 3, .eventMissed (.windowMiss 5) 4,
        .eventMissed (.windowMiss 6) 5, .eventMissed (.windowMiss 7) 6] ∧
      ∃ link w, Link.start e.config e.handlers { clock := ⟨4294960000, 1⟩, peer := e.central } =
          .ok (link, w) ∧
        (∃ stages last w' farewell, Link.Run link w stages last w' ∧
          stages.map Stage.event = e.script ++ [farewell] ∧ e.IsFarewell farewell ∧
          last.state = .advertising) ∧
        ∀ stages last w', Link.Run link w stages last w' →
          stages.map Stage.event <+: e.script ∨ ∃ farewell after,
            stages.map Stage.event = e.script ++ farewell :: after ∧ e.IsFarewell farewell ∧
            ∀ event ∈ after, event.keepsAdvertising = true := by
  refine ⟨{
      config := {
        advertisingData := []
        scanResponseData := [.flags AdStructure.connectableFlags]
        advRxWindowUs := 151
        tickRate := ⟨10000⟩ }
      controls := {}
      limit := 2
      terminates := false },
    ⟨[0x00, 6, 0x66, 0x55, 0x44, 0x33, 0x22, 0x11],
      some [0x04, 9, 0x66, 0x55, 0x44, 0x33, 0x22, 0x11, 2, 1, 6]⟩,
    ?fits, ?prepares, rfl, rfl, by decide, runs_to_farewell _ ?fits ?prepares 4294960000⟩
  case fits => exact ⟨rfl, by decide, by decide, by decide, by decide⟩
  case prepares => decide +kernel

end Encounter

end BlePeripheral

import BlePeripheral.Proofs.Air.Central
import BlePeripheral.Proofs.Link.Pace
import BlePeripheral.Proofs.Link.Representation
import BlePeripheral.Proofs.Link.Schedule

/-! An encounter of a link with the simulated central, from the first advertisement to the end of
their connection. What the link is going to report is known in advance: a script, and then a
farewell. A link that is on time hears each PDU of the central within its window, and has listened
to its silence for six windows before the timeout is over, whatever the tick rate is. -/

namespace BlePeripheral

namespace Central

/-- The times of its connection, at a tick rate that leaves room for them. -/
structure Times (c : Connection) (ticks : Nat) : Prop where
  interval : c.intervalTicks.toNat = 30000 * ticks
  opening : c.window.opening.toNat = 5000 * ticks
  closing : c.window.closing.toNat = 7500 * ticks
  timeout : c.supervisionTicks.toNat = 200000 * ticks

theorem times_ofContext (c : Central) {rate : TickRate} (le : rate.ticksPerUs.toNat ≤ 10000) :
    Times (.ofContext c.context rate) rate.ticksPerUs.toNat := by
  have interval : (c.context.intervalTicks rate).toNat = 30000 * rate.ticksPerUs.toNat := by
    have units : c.context.interval.toUInt32.toNat = 24 := rfl
    rw [ConnectionContext.intervalTicks, TickRate.ticksFor1250Us, units,
      TickRate.toNat_ticksForUs] <;> omega
  have offset : (c.context.windowOffsetTicks rate).toNat = 5000 * rate.ticksPerUs.toNat := by
    have units : c.context.winOffset.toUInt32.toNat = 4 := rfl
    rw [ConnectionContext.windowOffsetTicks, TickRate.ticksFor1250Us, units,
      TickRate.toNat_ticksForUs] <;> omega
  have last : (c.context.windowEndTicks rate).toNat = 7500 * rate.ticksPerUs.toNat := by
    have units : (c.context.winOffset.toUInt32 + c.context.winSize.toUInt32).toNat = 6 := rfl
    rw [ConnectionContext.windowEndTicks, TickRate.ticksFor1250Us, units,
      TickRate.toNat_ticksForUs] <;> omega
  have timeout : (c.context.supervisionTicks rate).toNat = 200000 * rate.ticksPerUs.toNat := by
    have units : c.context.timeout.toUInt32.toNat = 20 := rfl
    rw [ConnectionContext.supervisionTicks, TickRate.ticksFor10Ms, units,
      TickRate.toNat_ticksForUs] <;> omega
  have closing : (Connection.ofContext c.context rate).window.closing.toNat =
      7500 * rate.ticksPerUs.toNat := by
    have ends : c.context.windowOffsetTicks rate ≤ c.context.windowEndTicks rate := by
      rw [UInt32.le_iff_toNat_le, offset, last]
      omega
    have within : (Connection.ofContext c.context rate).window.closing =
        min (c.context.windowEndTicks rate) (c.context.intervalTicks rate) :=
      EventWindow.closing_within ends
    rw [within, UInt32.toNat_min, last, interval]
    omega
  refine ⟨interval, ?_, closing, timeout⟩
  have opening : (Connection.ofContext c.context rate).window.opening =
    min (c.context.windowOffsetTicks rate) (Connection.ofContext c.context rate).window.closing := rfl
  rw [opening, UInt32.toNat_min, closing, offset]
  omega

end Central

/-- A link and the central that it is to meet, which sends so many PDUs on their connection. -/
structure Encounter where
  config : LinkConfig
  controls : ControlTable
  limit : UInt32
  terminates : Bool

namespace Encounter

/-- The link may be connected to and listens for long enough, the times of the connection fit the
tick counter, and the central has something to send. -/
structure Fits (e : Encounter) : Prop where
  connectable : e.config.mode = .connectable
  listens : 151 ≤ e.config.advRxWindowUs
  ticking : 1 ≤ e.config.tickRate.ticksPerUs
  counted : e.config.tickRate.ticksPerUs ≤ 10000
  speaks : 1 ≤ e.limit

theorem Fits.limit_pos {e : Encounter} (fits : e.Fits) : 0 < e.limit.toNat :=
  UInt32.le_iff_toNat_le.mp fits.speaks

def central (e : Encounter) : Central where
  target := e.config.address
  replyDelay := e.config.tickRate.interFrameSpace
  dropAfter := some e.limit
  terminates := e.terminates

def handlers (e : Encounter) : ControlTable := e.controls.register .terminateInd .terminateOnRequest

def greeting (e : Encounter) : LinkEvent :=
  if e.config.scanResponseData = [] then .ignored (some .scanReq)
  else .scanResponseSent 37 Central.address

def exchange (k : Nat) : LinkEvent :=
  .dataReceived (UInt8.ofNat (7 * (k + 1) % 37)) .dataContinue 0 false

def miss (e : Encounter) (k : Nat) : LinkEvent :=
  .eventMissed (.windowMiss (UInt16.ofNat (e.limit.toNat - 1 + k))) (UInt32.ofNat k)

def exchangesAfter (e : Encounter) (k : Nat) : List LinkEvent :=
  (List.range' (k + 1) (e.limit.toNat - 1 - k)).map exchange

def missesAfter (e : Encounter) (k : Nat) : List LinkEvent :=
  if e.terminates then [] else (List.range' (k + 1) (6 - k)).map e.miss

/-- What the link reports before the end of the connection. -/
def script (e : Encounter) : List LinkEvent :=
  e.greeting :: .connectRequested Central.address Central.accessAddress 7 ::
    .connected Central.accessAddress 7 :: (e.exchangesAfter 0 ++ e.missesAfter 0)

/-- What it reports at the end: that the central has terminated, or has been silent for longer
than the timeout. -/
def IsFarewell (e : Encounter) (event : LinkEvent) : Prop :=
  if e.terminates then event = .terminated (some 0x13)
  else ∃ elapsed, event = .connectionLost (.supervisionTimeout elapsed
    (UInt32.ofNat (200000 * e.config.tickRate.ticksPerUs.toNat)))

variable {e : Encounter}

structure Plays (e : Encounter) (p : Central) (phase : CentralPhase) (sent : Nat) : Prop where
  target : p.target = e.config.address
  replyDelay : p.replyDelay = e.config.tickRate.interFrameSpace
  dropAfter : p.dropAfter = some e.limit
  terminates : p.terminates = e.terminates
  phase : p.phase = phase
  sent : p.sent = UInt32.ofNat sent

theorem Plays.context {p : Central} {phase : CentralPhase} {sent : Nat} (h : e.Plays p phase sent) :
    p.context = e.central.context := by
  rw [Central.context, h.target]
  rfl

theorem Plays.isDone {p : Central} {phase : CentralPhase} {sent : Nat} (h : e.Plays p phase sent)
    (few : sent ≤ e.limit.toNat) : p.isDone = true ↔ sent = e.limit.toNat := by
  have bound := e.limit.toNat_lt
  rw [Central.isDone, h.dropAfter, h.sent, Option.any_some, decide_eq_true_eq,
    UInt32.le_iff_toNat_le, UInt32.toNat_ofNat']
  omega

theorem Plays.busy {p : Central} {phase : CentralPhase} {sent : Nat} (h : e.Plays p phase sent)
    (stays : phase = .connecting ∨ phase = .connected) (few : sent < e.limit.toNat) :
    p.dataReply.1.delivery =
        some ⟨e.config.tickRate.interFrameSpace, p.dataFrame .dataContinue []⟩ ∧
      ∀ ack, e.Plays { p.dataReply.2 with ack } .connected (sent + 1) := by
  have goes : p.isDone = false := by
    rw [← Bool.not_eq_true, h.isDone (Nat.le_of_lt few)]
    omega
  rw [Central.dataReply_of_busy (by rw [h.phase]; exact stays) goes]
  refine ⟨by rw [h.replyDelay], fun ack => ⟨h.target, h.replyDelay, h.dropAfter, h.terminates, rfl, ?_⟩⟩
  show p.sent + 1 = _
  rw [h.sent, UInt32.ofNat_add]
  rfl

theorem Plays.terminating {p : Central} (h : e.Plays p .connected e.limit.toNat)
    (terminates : e.terminates = true) : p.dataReply.1.delivery = some
      ⟨e.config.tickRate.interFrameSpace, p.dataFrame .control Central.terminatePayload⟩ := by
  rw [Central.dataReply_of_done (.inr h.phase) ((h.isDone (Nat.le_refl _)).mpr rfl),
    if_pos (h.terminates.trans terminates), h.replyDelay]

theorem Plays.silent {p : Central} (h : e.Plays p .connected e.limit.toNat)
    (silent : e.terminates = false) : p.dataReply.1.delivery = none ∧
      ∀ ack, e.Plays { p.dataReply.2 with ack } .gone e.limit.toNat := by
  have stays : ¬ p.terminates = true := by
    rw [h.terminates, silent]
    exact Bool.false_ne_true
  rw [Central.dataReply_of_done (.inr h.phase) ((h.isDone (Nat.le_refl _)).mpr rfl), if_neg stays]
  exact ⟨rfl, fun ack => ⟨h.target, h.replyDelay, h.dropAfter, h.terminates, rfl, h.sent⟩⟩

theorem Plays.gone {p : Central} {sent : Nat} (h : e.Plays p .gone sent) :
    p.dataReply.1.delivery = none ∧ ∀ ack, e.Plays { p.dataReply.2 with ack } .gone sent := by
  rw [Central.dataReply_of_gone h.phase]
  exact ⟨rfl, fun ack => ⟨h.target, h.replyDelay, h.dropAfter, h.terminates, h.phase, h.sent⟩⟩

/-- What the connection holds after so many events, and when the central was last heard: in the
event that is as many intervals back as windows have been missed since. -/
structure Keeps (e : Encounter) (c : Connection) (clock : Clock) (events missed : Nat) : Prop where
  scheduled : ∃ first, c.Scheduled e.central.context e.config.tickRate first events
  window : c.window = (Connection.ofContext e.central.context e.config.tickRate).window
  timeout : c.supervisionTicks = e.central.context.supervisionTicks e.config.tickRate
  counted : c.missed = UInt32.ofNat missed
  paced : ∃ anchor heard, c.OnTime clock anchor ∧ c.lastRx = Time.tick heard ∧
    anchor ≤ heard + missed * (30000 * e.config.tickRate.ticksPerUs.toNat) ∧
    heard + missed * (30000 * e.config.tickRate.ticksPerUs.toNat) ≤
      anchor + 5150 * e.config.tickRate.ticksPerUs.toNat + 1

theorem Keeps.times {c : Connection} {clock : Clock} {events missed : Nat}
    (h : e.Keeps c clock events missed) (fits : e.Fits) :
    Central.Times c e.config.tickRate.ticksPerUs.toNat := by
  have times : Central.Times (.ofContext e.central.context e.config.tickRate)
      e.config.tickRate.ticksPerUs.toNat :=
    e.central.times_ofContext (UInt32.le_iff_toNat_le.mp fits.counted)
  obtain ⟨first, scheduled⟩ := h.scheduled
  refine ⟨?_, by rw [h.window]; exact times.opening, by rw [h.window]; exact times.closing, ?_⟩
  · rw [scheduled.interval]
    exact times.interval
  · rw [h.timeout]
    exact times.timeout

theorem Keeps.timed {c : Connection} {clock : Clock} {events missed : Nat}
    (h : e.Keeps c clock events missed) : c.IsTimed := by
  have timed := Connection.isTimed_ofContext e.central.context e.config.tickRate
  obtain ⟨first, scheduled⟩ := h.scheduled
  refine ⟨by rw [h.window]; exact timed.opens, ?_⟩
  rw [h.window, scheduled.interval]
  exact timed.closes

theorem Fits.ticks {e : Encounter} (fits : e.Fits) :
    1 ≤ e.config.tickRate.ticksPerUs.toNat ∧ e.config.tickRate.ticksPerUs.toNat ≤ 10000 ∧
      e.config.tickRate.interFrameSpace.toNat = 150 * e.config.tickRate.ticksPerUs.toNat ∧
      151 * e.config.tickRate.ticksPerUs.toNat ≤
        (e.config.tickRate.ticksForUs e.config.advRxWindowUs).toNat := by
  have ticking : 1 ≤ e.config.tickRate.ticksPerUs.toNat := UInt32.le_iff_toNat_le.mp fits.ticking
  have counted : e.config.tickRate.ticksPerUs.toNat ≤ 10000 :=
    UInt32.le_iff_toNat_le.mp fits.counted
  have listens : 151 ≤ e.config.advRxWindowUs.toNat := UInt32.le_iff_toNat_le.mp fits.listens
  refine ⟨ticking, counted, ?_, ?_⟩
  · have space : (150 : UInt32) = saturate 150 := by decide
    rw [TickRate.interFrameSpace, space, TickRate.toNat_ticksForUs] <;> omega
  · rw [TickRate.ticksForUs, toNat_saturate]
    have more := Nat.mul_le_mul_right e.config.tickRate.ticksPerUs.toNat listens
    omega

theorem Keeps.accepted {c : Connection} {radio radio' : Radio Central} {heard : Option RxFrame}
    {i j events missed : Nat} {bytes : Bytes} {pdu : DataPdu}
    (h : e.Keeps c radio.clock events missed) (fits : e.Fits)
    (hears : Link.Hears c radio heard radio' i j)
    (offers : ((radio.afterReads (i + 1 + (j + 1))).offer c.nextEvent.channel).1.delivery =
      some ⟨e.config.tickRate.interFrameSpace, bytes⟩)
    (wellFormed : DataPdu.ofBytes bytes = .ok pdu) :
    ∃ frame, heard = some frame ∧ frame.bytes = bytes ∧
      ∀ n, (∀ k < n, radio'.clock.elapsedAt frame.timestamp
        e.config.tickRate.interFrameSpace k = false) →
      e.Keeps (c.nextEvent.after (some frame)) (radio'.clock.afterReads (n + 1)) (events + 1) 0 := by
  obtain ⟨ticking, counted, space, -⟩ := fits.ticks
  have times := h.times fits
  have interval := times.interval
  have opening := times.opening
  have closing := times.closing
  obtain ⟨first, scheduled⟩ := h.scheduled
  obtain ⟨anchor, _, onTime, -, -, -⟩ := h.paced
  have step : radio'.clock.step.toNat = 1 := by rw [hears.clock_step, onTime.unit]; rfl
  obtain ⟨rfl, least, most⟩ := hears.of_offer onTime h.timed (by omega) (by omega) offers
    (by dsimp only; omega)
  dsimp only at least most
  have opened : c.listensAt anchor = anchor + c.intervalTicks.toNat + c.window.opening.toNat + 1 :=
    rfl
  refine ⟨_, rfl, rfl, ?_⟩
  intro n before
  have wait := Clock.wait_time_le (by omega) before
  rw [step, Nat.mul_one] at wait
  have after {timestamp : Tick} : c.nextEvent.after (some ⟨bytes, timestamp⟩) =
      { c.nextEvent with
        ack := c.nextEvent.ack.afterReceive pdu.header, missed := 0, lastRx := timestamp } :=
    c.nextEvent.after_of_ofBytes wellFormed
  refine ⟨⟨first, scheduled.after _⟩, by rw [Connection.after_window]; exact h.window,
    by rw [Connection.after_supervisionTicks]; exact h.timeout, by rw [after]; rfl, ?_⟩
  exact ⟨anchor + c.intervalTicks.toNat,
    c.listensAt anchor + e.config.tickRate.interFrameSpace.toNat,
    hears.onTime_after onTime (by omega) (by omega) (by omega), by rw [after], by omega, by omega⟩

/-- While the central is silent the check of each event up to the sixth is in time, and that of
the seventh is not. -/
theorem Keeps.check {c : Connection} {radio radio' : Radio Central} {heard : Option RxFrame}
    {i j events missed : Nat} (h : e.Keeps c radio.clock events missed) (fits : e.Fits)
    (few : missed ≤ 6) (hears : Link.Hears c radio heard radio' i j)
    (silent : ((radio.afterReads (i + 1 + (j + 1))).offer c.nextEvent.channel).1.delivery = none) :
    heard = none ∧
      (elapsedSince radio'.clock.now c.lastRx ≤ c.supervisionTicks ↔ missed < 6) ∧
      e.Keeps (c.nextEvent.after none) (radio'.clock.afterReads 1) (events + 1) (missed + 1) := by
  obtain ⟨ticking, counted, -, -⟩ := fits.ticks
  have times := h.times fits
  have interval := times.interval
  have opening := times.opening
  have closing := times.closing
  have timeout := times.timeout
  obtain ⟨first, scheduled⟩ := h.scheduled
  obtain ⟨anchor, last, onTime, lastRx, back, ahead⟩ := h.paced
  obtain ⟨nothing, least, most⟩ :=
    hears.of_no_offer onTime h.timed (by omega) (by omega) silent
  have opened : c.listensAt anchor = anchor + c.intervalTicks.toNat + c.window.opening.toNat + 1 :=
    rfl
  have gap : missed * (30000 * e.config.tickRate.ticksPerUs.toNat) ≤
      6 * (30000 * e.config.tickRate.ticksPerUs.toNat) := Nat.mul_le_mul_right _ few
  have elapsed : (elapsedSince radio'.clock.now c.lastRx).toNat = radio'.clock.time - last := by
    have past : radio'.clock.time = last + (radio'.clock.time - last) := by omega
    rw [lastRx, Clock.now, past, elapsedSince_tick_add, UInt32.toNat_ofNat']
    omega
  refine ⟨nothing, ?_, ⟨first, scheduled.after _⟩, by rw [Connection.after_window]; exact h.window,
    by rw [Connection.after_supervisionTicks]; exact h.timeout, ?_, ?_⟩
  · rw [UInt32.le_iff_toNat_le, elapsed, timeout]
    obtain rfl | fewer := Nat.eq_or_lt_of_le few
    · omega
    · have gap' : missed * (30000 * e.config.tickRate.ticksPerUs.toNat) ≤
          5 * (30000 * e.config.tickRate.ticksPerUs.toNat) :=
        Nat.mul_le_mul_right _ (Nat.le_of_lt_succ fewer)
      omega
  · show c.missed + 1 = _
    rw [h.counted, UInt32.ofNat_add]
    rfl
  · subst nothing
    refine ⟨anchor + c.intervalTicks.toNat, last,
      hears.onTime_after onTime (by omega) (by omega) (by omega), lastRx, ?_, ?_⟩
    · rw [Nat.succ_mul]
      omega
    · rw [Nat.succ_mul]
      omega

theorem Keeps.channel {c : Connection} {clock : Clock} {events missed : Nat}
    (h : e.Keeps c clock events missed) :
    c.nextEvent.channel = UInt8.ofNat (7 * (events + 2) % 37) := by
  obtain ⟨first, scheduled⟩ := h.scheduled
  rw [← Connection.after_channel c.nextEvent none, (scheduled.after none).channel_eq,
    Central.channelAt_context]

theorem Keeps.counter {c : Connection} {clock : Clock} {events missed : Nat}
    (h : e.Keeps c clock events missed) : c.nextEvent.eventCounter = UInt16.ofNat (events + 1) := by
  obtain ⟨first, scheduled⟩ := h.scheduled
  have counter : c.nextEvent.eventCounter.toNat = (events + 1) % 65536 :=
    (scheduled.after none).counter
  apply UInt16.toNat_inj.mp
  rw [counter, UInt16.toNat_ofNat']

theorem exchangesAfter_of_lt {k : Nat} (more : k + 1 < e.limit.toNat) :
    e.exchangesAfter k = exchange (k + 1) :: e.exchangesAfter (k + 1) := by
  obtain ⟨rest, left⟩ := Nat.exists_eq_add_of_lt more
  have now : e.limit.toNat - 1 - k = rest + 1 := by omega
  have later : e.limit.toNat - 1 - (k + 1) = rest := by omega
  rw [exchangesAfter, exchangesAfter, now, later, List.range'_succ, List.map_cons]

theorem exchangesAfter_of_eq {k : Nat} (last : k + 1 = e.limit.toNat) : e.exchangesAfter k = [] := by
  have none : e.limit.toNat - 1 - k = 0 := by omega
  rw [exchangesAfter, none]
  rfl

theorem missesAfter_of_terminates (terminates : e.terminates = true) (k : Nat) :
    e.missesAfter k = [] := if_pos terminates

theorem missesAfter_of_lt {k : Nat} (silent : e.terminates = false) (more : k < 6) :
    e.missesAfter k = e.miss (k + 1) :: e.missesAfter (k + 1) := by
  have stays : ¬ e.terminates = true := by rw [silent]; exact Bool.false_ne_true
  have now : 6 - k = 6 - (k + 1) + 1 := by omega
  rw [missesAfter, missesAfter, if_neg stays, if_neg stays, now, List.range'_succ, List.map_cons]

theorem missesAfter_six : e.missesAfter 6 = [] := by
  rw [missesAfter, Nat.sub_self, List.range'_zero, List.map_nil, ite_self]

end Encounter

end BlePeripheral

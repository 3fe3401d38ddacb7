import BlePeripheral.Proofs.Link.Run

/-! When a connection event takes place, for a clock that moves by one tick a reading. A link that
is on time finds each wait over at the very tick it is for, so the window opens at a tick that is
known from the anchor, and a frame that is offered then is heard if it is complete before the
window closes. -/

namespace BlePeripheral

/-- The anchor of the current connection event is a true time, and the next is still to come. -/
structure Connection.OnTime (c : Connection) (clock : Clock) (anchor : Nat) : Prop where
  unit : clock.step = 1
  anchored : c.anchor = Time.tick anchor
  begun : anchor ≤ clock.time
  early : clock.time ≤ anchor + c.intervalTicks.toNat

def Connection.listensAt (c : Connection) (anchor : Nat) : Nat :=
  anchor + c.intervalTicks.toNat + c.window.opening.toNat + 1

theorem Time.tick_add (t : Nat) (span : UInt32) :
    Time.tick (t + span.toNat) = Time.tick t + span := by
  simp only [Time.tick, UInt32.ofNat_add, UInt32.ofNat_toNat]

namespace Link

variable {P : Type} [Peer P]

theorem Advertises.readsTo {link link' : Link} {radio radio' : Radio P} {heard : Option RxFrame}
    {event : LinkEvent} (h : link.Advertises radio heard event link' radio') :
    (radio.clock.afterReads 1).ReadsTo radio'.clock := by
  have listening := (radio.clock.afterReads 1).readsTo_afterReads 1
  cases h with
  | broadcast => exact .refl _
  | silence listens window => exact listening.trans window.readsTo
  | @answered frame after _ _ _ listens window answers =>
    have heard := listening.trans window.readsTo
    cases answers with
    | connection => exact heard
    | scanResponse scanner n => exact heard.trans (after.clock.readsTo_afterReads (n + 1))
    | nothing => exact heard

theorem Establishes.readsTo {link : Link} {c : Connection} {radio radio' : Radio P}
    {frame : RxFrame} {n m : Nat} (h : link.Establishes c radio frame radio' n m) :
    radio.clock.ReadsTo radio'.clock := by
  refine ⟨n + 1 + (m + 1) + 1, ?_⟩
  rw [h.radio_eq, ← Clock.afterReads_afterReads, ← Clock.afterReads_afterReads]
  rfl

theorem Reacts.readsTo {link link' : Link} {c : Connection} {radio radio' : Radio P}
    {heard : Option RxFrame} {event : LinkEvent} {new : List ControlPdu}
    (h : link.Reacts c radio heard event link' radio' new) : radio.clock.ReadsTo radio'.clock := by
  cases h with
  | stands | lost => exact radio.clock.readsTo_afterReads 1
  | accepted n | terminated n => exact radio.clock.readsTo_afterReads (n + 1)

theorem Step.readsTo {link link' : Link} {w w' : World P} {event : LinkEvent}
    (h : link.Step w event link' w') : w.radio.clock.ReadsTo w'.radio.clock := by
  cases state : link.state with
  | advertising =>
    obtain ⟨n, heard, advertises⟩ := h.of_advertising state
    have sent := (w.radio.clock.afterReads n).readsTo_afterReads 1
    exact (w.radio.clock.readsTo_afterReads n).trans (sent.trans advertises.readsTo)
  | connectRequest c =>
    obtain ⟨frame, n, m, establishes, -⟩ := h.setsUp state
    exact establishes.readsTo
  | connected c =>
    obtain ⟨heard, radio, new, i, j, hears, reacts, -⟩ := h.of_connected state
    exact hears.readsTo.trans reacts.readsTo

theorem Step.clock_step {link link' : Link} {w w' : World P} {event : LinkEvent}
    (h : link.Step w event link' w') : w'.radio.clock.step = w.radio.clock.step :=
  h.readsTo.step_eq

theorem Advertises.of_offer {link link' : Link} {radio radio' : Radio P} {heard : Option RxFrame}
    {event : LinkEvent} {delivery : Delivery} (h : link.Advertises radio heard event link' radio')
    (listens : link.config.mode ≠ .nonConnectable)
    (offers : ((link.advertisement radio).offer (advChannel link.advIndex)).1.delivery =
      some delivery)
    (inTime : delivery.delay.toNat + radio.clock.step.toNat ≤
      (link.config.tickRate.ticksForUs link.config.advRxWindowUs).toNat) :
    ∃ frame, heard = some frame ∧ frame.bytes = delivery.bytes := by
  have awaited : (link.listening radio).awaited =
      some ((link.advertisement radio).clock.now, delivery) := by
    rw [Link.awaited_listening, offers]
    rfl
  have atOnce : (elapsedSince (link.advertisement radio).clock.now
      (link.advertisement radio).clock.now).toNat = 0 := by
    rw [elapsedSince, UInt32.sub_self]
    rfl
  have inTime' : (elapsedSince (link.advertisement radio).clock.now
      (link.advertisement radio).clock.now).toNat + delivery.delay.toNat +
      (link.listening radio).clock.step.toNat ≤
      (link.config.tickRate.ticksForUs link.config.advRxWindowUs).toNat := by
    rw [atOnce, Nat.zero_add]
    exact inTime
  cases h with
  | broadcast deaf => exact absurd deaf listens
  | silence _ window => cases window.of_awaited awaited inTime'
  | answered _ window =>
    have came := window.of_awaited awaited inTime'
    cases came
    exact ⟨_, rfl, rfl⟩

theorem Hears.listens_at {c : Connection} {radio radio' : Radio P} {heard : Option RxFrame}
    {i j anchor : Nat} (h : Hears c radio heard radio' i j) (onTime : c.OnTime radio.clock anchor)
    (opens : 0 < c.window.opening.toNat) :
    c.nextEvent.anchor = Time.tick (anchor + c.intervalTicks.toNat) ∧
      (armed c radio (i + 1) (j + 1)).clock.time = c.listensAt anchor := by
  have step : radio.clock.step.toNat = 1 := by rw [onTime.unit]; rfl
  have interval := c.intervalTicks.toNat_lt
  have opening := c.window.opening.toNat_lt
  have next : c.nextEvent.anchor = Time.tick (anchor + c.intervalTicks.toNat) := by
    rw [Time.tick_add, ← onTime.anchored]
    rfl
  have passed := h.anchor
  have before := h.beforeAnchor
  rw [onTime.anchored] at passed before
  have early := onTime.early
  obtain ⟨least, most⟩ :=
    Clock.wait_in_time onTime.begun (by omega) (by omega) passed before
  rw [Clock.afterReads_time, step, Nat.mul_one] at least most
  have opened := h.opening
  have unopened := h.beforeOpening
  rw [next] at opened unopened
  have time : (radio.clock.afterReads (i + 1)).time = anchor + c.intervalTicks.toNat + 1 := by
    rw [Clock.afterReads_time, step]
    omega
  have step' : (radio.clock.afterReads (i + 1)).step.toNat = 1 := step
  obtain ⟨least', most'⟩ := Clock.wait_in_time (by omega) (by omega) (by omega) opened unopened
  rw [Clock.afterReads_time, step', Nat.mul_one, time] at least' most'
  refine ⟨next, ?_⟩
  have ticks : (armed c radio (i + 1) (j + 1)).clock.time =
      radio.clock.time + (i + 1 + (j + 1)) * radio.clock.step.toNat := rfl
  rw [ticks, step, Connection.listensAt]
  omega

theorem Hears.onTime_after {c : Connection} {radio radio' : Radio P} {heard : Option RxFrame}
    {i j anchor n : Nat} (h : Hears c radio heard radio' i j) (onTime : c.OnTime radio.clock anchor)
    (opens : 0 < c.window.opening.toNat)
    (begun : anchor + c.intervalTicks.toNat ≤ radio'.clock.time)
    (early : radio'.clock.time + n ≤ anchor + c.intervalTicks.toNat + c.intervalTicks.toNat) :
    (c.nextEvent.after heard).OnTime (radio'.clock.afterReads n)
      (anchor + c.intervalTicks.toNat) := by
  have unit : radio'.clock.step = 1 := by rw [h.clock_step, onTime.unit]
  have time : (radio'.clock.afterReads n).time = radio'.clock.time + n := by
    rw [Clock.afterReads_time, unit]
    exact congrArg _ (Nat.mul_one n)
  obtain ⟨next, -⟩ := h.listens_at onTime opens
  refine ⟨unit, ?_, by omega, ?_⟩
  · obtain ⟨_, _, _, after⟩ := c.nextEvent.after_eq heard
    rw [after]
    exact next
  · rw [time, Connection.after_intervalTicks]
    exact early

theorem Hears.of_offer {c : Connection} {radio radio' : Radio P} {heard : Option RxFrame}
    {i j anchor : Nat} {delivery : Delivery} (h : Hears c radio heard radio' i j)
    (onTime : c.OnTime radio.clock anchor) (timed : c.IsTimed)
    (opens : 0 < c.window.opening.toNat) (room : c.intervalTicks.toNat + 2 < 4294967296)
    (offers : ((radio.afterReads (i + 1 + (j + 1))).offer c.nextEvent.channel).1.delivery =
      some delivery)
    (inTime : c.window.opening.toNat + delivery.delay.toNat + 2 ≤ c.window.closing.toNat) :
    heard = some ⟨delivery.bytes, Time.tick (c.listensAt anchor + delivery.delay.toNat)⟩ ∧
      c.listensAt anchor + delivery.delay.toNat ≤ radio'.clock.time ∧
      radio'.clock.time ≤ c.listensAt anchor + delivery.delay.toNat + 3 := by
  have step : (armed c radio (i + 1) (j + 1)).clock.step.toNat = 1 := by
    show radio.clock.step.toNat = 1
    rw [onTime.unit]
    rfl
  have closes := UInt32.le_iff_toNat_le.mp timed.closes
  obtain ⟨next, time⟩ := h.listens_at onTime opens
  have awaited : (armed c radio (i + 1) (j + 1)).awaited =
      some ((armed c radio (i + 1) (j + 1)).clock.now, delivery) := by
    rw [armed, Radio.awaited_receive, offers]
    rfl
  have since : (elapsedSince (armed c radio (i + 1) (j + 1)).clock.now c.nextEvent.anchor).toNat =
      c.window.opening.toNat + 1 := by
    rw [Clock.now, time, next, Connection.listensAt, Nat.add_assoc, elapsedSince_tick_add,
      UInt32.toNat_ofNat']
    omega
  have came := h.window.of_awaited awaited (by omega)
  subst came
  have complete := h.window.completed_le (fun opened _ same => by
    rw [awaited] at same
    cases same
    rfl) (by omega)
  have delay : elapsedSince (Radio.completed (armed c radio (i + 1) (j + 1)).clock.now
      delivery).timestamp (armed c radio (i + 1) (j + 1)).clock.now = delivery.delay :=
    elapsedSince_add _ _
  rw [delay, time, step] at complete
  refine ⟨?_, complete⟩
  rw [Radio.completed, Clock.now, time, Time.tick_add]

theorem Hears.of_no_offer {c : Connection} {radio radio' : Radio P} {heard : Option RxFrame}
    {i j anchor : Nat} (h : Hears c radio heard radio' i j) (onTime : c.OnTime radio.clock anchor)
    (timed : c.IsTimed) (opens : 0 < c.window.opening.toNat)
    (room : c.intervalTicks.toNat + 2 < 4294967296)
    (silent : ((radio.afterReads (i + 1 + (j + 1))).offer c.nextEvent.channel).1.delivery = none) :
    heard = none ∧ c.listensAt anchor ≤ radio'.clock.time ∧
      radio'.clock.time ≤ c.listensAt anchor + c.window.closing.toNat + 4 := by
  have step : (armed c radio (i + 1) (j + 1)).clock.step.toNat = 1 := by
    show radio.clock.step.toNat = 1
    rw [onTime.unit]
    rfl
  have closes := UInt32.le_iff_toNat_le.mp timed.closes
  obtain ⟨-, time⟩ := h.listens_at onTime opens
  have spent := h.window.time_le (by omega)
  rw [time, step] at spent
  refine ⟨h.window.of_awaited_none ?_, by omega, by omega⟩
  rw [armed, Radio.awaited_receive, silent]
  rfl

end Link

end BlePeripheral

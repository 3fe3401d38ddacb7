import BlePeripheral.Proofs.Link.Ends
import BlePeripheral.Proofs.Link.Walk

/-! How exactly a connection event keeps its receive window. The clock is polled, by the waits for
the window as well as while the radio listens, so the radio begins to listen no sooner than a step
after the window opens, and it hears what is offered then up to less than a step before or after
the window closes. -/

namespace BlePeripheral

/-- The ticks from the anchor of the next connection event to now, modulo 2^32. -/
def Connection.offset (c : Connection) (clock : Clock) : Nat :=
  (elapsedSince clock.now c.nextEvent.anchor).toNat

/-- What is heard of a delivery that is offered `offset` ticks after the anchor, as the radio begins
to listen. -/
structure EventWindow.Accurate (window : EventWindow) (step offset : Nat) (opened : Tick)
    (delivery : Delivery) (heard : Option RxFrame) : Prop where
  /-- It is not missed if it is complete a step before the window closes. -/
  inTime : offset + delivery.delay.toNat + step ≤ window.closing.toNat →
    heard = some (Radio.completed opened delivery)
  /-- It is heard only at once or if it is complete less than a step after the window closes. -/
  notLate : ∀ frame, heard = some frame → frame = Radio.completed opened delivery ∧
    (delivery.delay.toNat = 0 ∨ offset + delivery.delay.toNat < window.closing.toNat + step)

namespace Link

open LinkM

variable {P : Type} [Peer P]

omit [Peer P] in
/-- The radio does not begin to listen before a step after the window has opened, unless the counter
has wrapped on the way. -/
theorem opening_add_step_le {c : Connection} {w u : World P} (h : awaitWindow c w = .ok () u)
    (unwrapped : w.radio.clock.step.toNat ≤ c.offset u.radio.clock) :
    c.window.opening.toNat + w.radio.clock.step.toNat ≤ c.offset u.radio.clock := by
  obtain ⟨i, j, rest, rfl, -, -, opening, -⟩ := awaitWindow_eq_ok h
  have found := Clock.span_le_of_elapsedAt opening
  have bound := (elapsedSince ((w.radio.clock.afterReads (i + 1)).afterReads j).now
    c.nextEvent.anchor).toNat_lt
  have next := ((w.radio.clock.afterReads (i + 1)).afterReads j).toNat_elapsedSince_later
    c.nextEvent.anchor 1
  have last : ((w.radio.clock.afterReads (i + 1)).afterReads j).afterReads 1 =
      w.radio.clock.afterReads (i + 1 + (j + 1)) := by
    simp only [Clock.afterReads_afterReads, Nat.add_assoc]
  rw [last, Clock.afterReads_step, Clock.afterReads_step, Nat.one_mul] at next
  simp only [Connection.offset, Radio.afterReads_clock] at unwrapped ⊢
  omega

theorem accurate_of_heard {c : Connection} {radio radio' : Radio P} {delivery : Delivery}
    {heard : Option RxFrame}
    (window : (radio.receive c.nextEvent.channel).2.Heard c.nextEvent.anchor c.window.closing heard
      radio')
    (offers : (radio.offer c.nextEvent.channel).1.delivery = some delivery)
    (begun : c.offset radio.clock + 2 * radio.clock.step.toNat < 4294967296)
    (room : c.window.closing.toNat + 2 * radio.clock.step.toNat < 4294967296) :
    c.window.Accurate radio.clock.step.toNat (c.offset radio.clock) radio.clock.now delivery
      heard := by
  have awaited : (radio.receive c.nextEvent.channel).2.awaited =
      some (radio.clock.now, delivery) := by
    rw [Radio.awaited_receive, offers]
    rfl
  constructor
  · exact window.of_awaited awaited
  · intro frame same
    rw [same] at window
    exact ⟨window.eq_completed awaited, window.closing_gt awaited begun room⟩

theorem hear_ends_of_armed {c : Connection} {w u : World P} {delivery : Delivery}
    (armed : awaitWindow c w = .ok () u)
    (offers : (u.radio.offer c.nextEvent.channel).1.delivery = some delivery)
    (moves : 0 < w.radio.clock.step.toNat)
    (room : delivery.delay.toNat + 2 * w.radio.clock.step.toNat ≤ 4294967296) :
    Ends (hear c) w := by
  have step : u.radio.clock.step = w.radio.clock.step := by
    obtain ⟨i, j, rest, rfl, -⟩ := awaitWindow_eq_ok armed
    rfl
  have awaited : (u.radio.receive c.nextEvent.channel).2.awaited =
      some (u.radio.clock.now, delivery) := by
    rw [Radio.awaited_receive, offers]
    rfl
  rw [← step] at moves room
  obtain ⟨n, due⟩ := Radio.exists_dueAt 2 awaited (Nat.mul_pos (by decide) moves) room
  exact hear_ends_of_listenEnds armed (Radio.listenEnds_of_dueAt due)

theorem heard_of_hear {c : Connection} {w u v : World P} {polls : Nat} {heard : Option RxFrame}
    (armed : awaitWindow c w = .ok () u) (hears : hear c { w with polls } = .ok heard v) :
    (u.radio.receive c.nextEvent.channel).2.Heard c.nextEvent.anchor c.window.closing heard
      v.radio := by
  rw [hear_eq] at hears
  obtain ⟨_, x, waited, hears⟩ := bind_eq_ok.mp hears
  obtain ⟨_, y, received, hears⟩ := bind_eq_ok.mp hears
  rw [receive_apply] at received
  cases received
  obtain ⟨radio, rest, rfl, window⟩ := listen_eq_ok hears
  rw [awaitWindow_radio_eq armed waited] at window
  exact window

theorem Hears.heard {c : Connection} {w u : World P} {radio : Radio P} {heard : Option RxFrame}
    {i j : Nat} (h : Hears c w.radio heard radio i j) (armed : awaitWindow c w = .ok () u) :
    (u.radio.receive c.nextEvent.channel).2.Heard c.nextEvent.anchor c.window.closing heard
      radio := by
  obtain ⟨i', j', rest, rfl, anchor, beforeAnchor, opening, beforeOpening⟩ :=
    awaitWindow_eq_ok armed
  obtain rfl := Clock.eq_of_first anchor beforeAnchor h.anchor h.beforeAnchor
  obtain rfl := Clock.eq_of_first opening beforeOpening h.opening h.beforeOpening
  exact h.window

theorem Reacts.ne_eventMissed {link link' : Link} {c : Connection} {radio radio' : Radio P}
    {frame : RxFrame} {event : LinkEvent} {new : List ControlPdu}
    (h : link.Reacts c radio (some frame) event link' radio' new) (error : LinkError)
    (missed : UInt32) : event ≠ .eventMissed error missed := by
  have report : c.report (some frame) ≠ .eventMissed error missed := by
    cases read : DataPdu.ofBytes frame.bytes <;> simp [Connection.report, read]
  cases h with
  | stands | accepted => exact report
  | lost | terminated =>
    intro same
    cases same

/-- A connection event keeps its window to within a poll, also when it is late. Once its waits are
over the radio is not armed before the window opens. What is offered then is waited for until it
is heard or the window is found closed: it is heard if it is complete a step before that, and if it
is heard it is complete less than a step after that, or was at once. -/
theorem window_accurate {link : Link} {c : Connection} {w u : World P} {delivery : Delivery}
    (connected : link.state = .connected c) (moves : 1 ≤ w.radio.clock.step.toNat)
    (armed : awaitWindow c w = .ok () u)
    (offers : (u.radio.offer c.nextEvent.channel).1.delivery = some delivery)
    (begun : c.offset u.radio.clock + delivery.delay.toNat + 2 * w.radio.clock.step.toNat <
      4294967296)
    (room : c.window.closing.toNat + 2 * w.radio.clock.step.toNat < 4294967296) :
    (w.radio.clock.step.toNat ≤ c.offset u.radio.clock →
      c.window.opening.toNat + w.radio.clock.step.toNat ≤ c.offset u.radio.clock) ∧
    (∃ polls heard v, hear c { w with polls } = .ok heard v) ∧
    (∀ polls heard v, hear c { w with polls } = .ok heard v →
      c.window.Accurate w.radio.clock.step.toNat (c.offset u.radio.clock) u.radio.clock.now delivery
        heard) ∧
    ∀ event link' w', link.Step w event link' w' → ∃ heard,
      c.window.Accurate w.radio.clock.step.toNat (c.offset u.radio.clock) u.radio.clock.now delivery
        heard ∧
      w'.radio.frames = w.radio.frames ++ heard.toList ∧
      (heard.isSome = true → ∀ error missed, event ≠ .eventMissed error missed) := by
  have step : u.radio.clock.step = w.radio.clock.step := by
    obtain ⟨i, j, rest, rfl, -⟩ := awaitWindow_eq_ok armed
    rfl
  have accurate {heard : Option RxFrame} {radio' : Radio P}
      (window : (u.radio.receive c.nextEvent.channel).2.Heard c.nextEvent.anchor c.window.closing
        heard radio') := accurate_of_heard window offers (by rw [step]; omega) (by rwa [step])
  rw [step] at accurate
  refine ⟨opening_add_step_le armed, ?_, ?_, ?_⟩
  · obtain ⟨polls, heard, v, -, ends⟩ := hear_ends_of_armed armed offers moves (by omega)
    exact ⟨_, heard, _, ends 0⟩
  · intro polls heard v hears
    exact accurate (heard_of_hear armed hears)
  · intro event link' w' made
    obtain ⟨heard, radio, new, i, j, hears, reacts, -⟩ := made.of_connected connected
    refine ⟨heard, accurate (hears.heard armed), by rw [reacts.frames_eq, hears.frames_eq], ?_⟩
    intro came
    obtain ⟨frame, rfl⟩ := Option.isSome_iff_exists.mp came
    exact reacts.ne_eventMissed

/-- An event that is late by 900 ticks at the opening of its window, and a frame that is complete a
step before that closes. -/
theorem window_accurate_of_late :
    ∃ (link : Link) (c : Connection) (w u : World ScriptedPeer), link.state = .connected c ∧
      w.radio.clock.step = 100 ∧ awaitWindow c w = .ok () u ∧
      c.window.opening = 5000 ∧ c.window.closing = 7500 ∧ c.offset u.radio.clock = 6000 ∧
      (u.radio.offer c.nextEvent.channel).1.delivery = some ⟨1400, [0x09, 0]⟩ ∧
      (∃ polls v, hear c { w with polls } =
        .ok (some (Radio.completed u.radio.clock.now ⟨1400, [0x09, 0]⟩)) v) ∧
      ∀ event link' w', link.Step w event link' w' → w'.radio.frames =
        w.radio.frames ++ [Radio.completed u.radio.clock.now ⟨1400, [0x09, 0]⟩] := by
  have passes : testConnecting {} [some ⟨100, [0x01, 0]⟩, some ⟨1400, [0x09, 0]⟩]
      (fun link w => LinkM.test link.step { w with polls := 10 } fun outcome w =>
        outcome.2.state.isConnected && outcome.2.state.connection?.all fun c =>
          w.radio.clock.step = 100 && c.window.opening = 5000 && c.window.closing = 7500 &&
            LinkM.test (awaitWindow c) { w.later 18200 with polls := 10 } fun _ u =>
              c.offset u.radio.clock = 6000 &&
                (u.radio.offer c.nextEvent.channel).1.delivery = some ⟨1400, [0x09, 0]⟩) = true := by
    decide +kernel
  obtain ⟨initial, w₀, c₀, -, -, passes⟩ := Reachable.of_test passes
  obtain ⟨event, link, w, -, passes⟩ := Step.of_test passes
  simp only [Bool.and_eq_true] at passes
  obtain ⟨connected, passes⟩ := passes
  obtain ⟨c, connected⟩ := LinkState.exists_of_isConnected connected
  simp only [connected, LinkState.connection?, Option.all_some, Bool.and_eq_true,
    decide_eq_true_eq] at passes
  obtain ⟨⟨⟨step, opening⟩, closing⟩, passes⟩ := passes
  obtain ⟨_, u, armed, passes⟩ := LinkM.eq_ok_of_test passes
  simp only [Bool.and_eq_true, decide_eq_true_eq] at passes
  obtain ⟨offset, offers⟩ := passes
  have step' : ({ w.later 18200 with polls := 10 } : World ScriptedPeer).radio.clock.step = 100 :=
    step
  have inTime : 6000 + (1400 : UInt32).toNat + (100 : UInt32).toNat ≤ (7500 : UInt32).toNat := by
    decide
  obtain ⟨-, ⟨polls, heard, v, hears⟩, accurate, kept⟩ :=
    window_accurate connected (by rw [step']; decide) armed offers (by rw [step', offset]; decide)
      (by rw [step', closing]; decide)
  rw [step', offset] at accurate kept
  refine ⟨link, c, _, u, connected, step', armed, opening, closing, offset, offers,
    ⟨polls, v, ?_⟩, ?_⟩
  · rw [← (accurate polls heard v hears).inTime (by rw [closing]; exact inTime)]
    exact hears
  · intro event' link' w' made
    obtain ⟨heard', accurate', frames, -⟩ := kept event' link' w' made
    rw [accurate'.inTime (by rw [closing]; exact inTime)] at frames
    exact frames

end Link

end BlePeripheral

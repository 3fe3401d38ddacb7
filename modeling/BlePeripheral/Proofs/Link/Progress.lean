import BlePeripheral.Proofs.Link.Ends
import BlePeripheral.Proofs.Link.Pace
import BlePeripheral.Proofs.Link.Representation
import BlePeripheral.Proofs.Link.Walk

/-! Which steps of a connection end. All that a connection event waits for are spans within an
interval, so it ends however late it begins. The set-up of a connection waits for a frame alone, and
goes on reading the clock if there is none. -/

namespace BlePeripheral

namespace LinkM

variable {P : Type}

theorem waitForFrame_of_awaited_none {w : World P} (nothing : w.radio.awaited = none) :
    LinkM.waitForFrame w =
      .error .outOfPolls { w with radio := w.radio.afterReads w.polls, polls := 0 } := by
  unfold LinkM.waitForFrame awaitRadio
  simp only [Radio.waitForFrame_of_awaited_none nothing]

end LinkM

namespace Link

open LinkM

variable {P : Type} [Peer P]

def firstDelivery (link : Link) (c : Connection) (radio : Radio P) : Option Delivery :=
  ((radio.configure c.context.accessAddress c.context.crcInit link.config.phy).offer
    c.channel).1.delivery

theorem Step.isTimed {link link' : Link} {w w' : World P} {event : LinkEvent} {c' : Connection}
    (h : link.Step w event link' w') (connected : link'.state = .connected c')
    (timed : ∀ c, link.state.connection? = some c → c.IsTimed) : c'.IsTimed := by
  cases state : link.state with
  | advertising =>
    have next := h.next
    rw [state, connected] at next
    cases next
  | connectRequest c =>
    obtain ⟨frame, _, _, _, -, -, -, -, established⟩ := h.of_connectRequest state
    have first := timed c (by rw [state]; rfl)
    rw [connected] at established
    cases established
    exact ⟨first.opens, first.closes⟩
  | connected c =>
    obtain ⟨heard, _, _, _, _, -, reacts, -⟩ := h.of_connected state
    have current := timed c (by rw [state]; rfl)
    obtain rfl | rfl := reacts.link_eq
    · cases connected
      exact current.after heard
    · cases connected

theorem Reachable.isTimed {link : Link} {w : World P} {c : Connection} (h : Reachable link w)
    (connected : link.state = .connected c) : c.IsTimed := by
  induction h generalizing c with
  | start started =>
    obtain ⟨_, _, rfl, rfl⟩ := start_eq_ok.mp started
    cases connected
  | @step link link' w w' event reached step ih =>
    apply step.isTimed connected
    intro c held
    cases state : link.state with
    | advertising =>
      rw [state] at held
      cases held
    | connectRequest first =>
      obtain ⟨context, rfl⟩ := reached.connectRequest state
      rw [state] at held
      cases held
      exact Connection.isTimed_ofContext context _
    | connected current =>
      rw [state] at held
      cases held
      exact ih state
  | advance ticks _ ih => exact ih connected
  | handlers controls _ ih => exact ih connected
  | peer peer _ ih => exact ih connected

theorem establish_of_none {link : Link} {c : Connection} {w : World P}
    (silent : link.firstDelivery c w.radio = none) :
    ∃ u, link.establish c w = .error .outOfPolls u ∧ u.polls = 0 ∧
      u.radio = (link.awaiting c w.radio).afterReads w.polls := by
  have nothing : (link.awaiting c w.radio).awaited = none := by
    rw [awaiting, Radio.awaited_receive, ← firstDelivery, silent]
    rfl
  unfold establish
  dsimp only
  rw [bind_of_ok (configure_apply _ _ _ w), bind_of_ok (receive_apply _ _),
    bind_of_error (waitForFrame_of_awaited_none nothing)]
  exact ⟨_, rfl, rfl, rfl⟩

/-- A step of a connection ends, and leaves the polls it has no use for. While connected that is so
for any anchor, at any time, and whatever the peer says and the handlers do; the set-up depends on
the first delivery, and without one it spends as many polls as it is given. -/
theorem connection_steps_end (link : Link) (w : World P) :
    (∀ c, Reachable link w → link.state = .connected c → c.IsTimed) ∧
    (1 ≤ w.radio.clock.step.toNat →
      link.config.tickRate.interFrameSpace.toNat + w.radio.clock.step.toNat ≤ 4294967296 →
      (∀ c, link.state = .connected c → c.IsTimed →
        c.intervalTicks.toNat + 2 * w.radio.clock.step.toNat ≤ 4294967296 → Ends link.step w) ∧
      ∀ c delivery, link.state = .connectRequest c →
        link.firstDelivery c w.radio = some delivery →
        delivery.delay.toNat + w.radio.clock.step.toNat ≤ 4294967296 → Ends link.step w) ∧
    ∀ c, link.state = .connectRequest c → link.firstDelivery c w.radio = none →
      ∀ polls, ∃ u, link.step { w with polls } = .error .outOfPolls u ∧ u.polls = 0 ∧
        u.radio.clock = w.radio.clock.afterReads polls := by
  refine ⟨fun c reached connected => reached.isTimed connected, ?_, ?_⟩
  · intro moves room
    constructor
    · intro c connected timed interval
      apply step_ends
      rw [act, connected]
      exact connectionEvent_ends moves timed interval room
    · intro c delivery waiting offers delay
      apply step_ends
      rw [act, waiting]
      exact establish_ends moves offers delay room
  · intro c waiting silent polls
    obtain ⟨u, hangs, spent, radio⟩ := establish_of_none (w := { w with polls }) silent
    refine ⟨u, ?_, spent, by rw [radio]; rfl⟩
    rw [step, act, waiting]
    exact bind_of_error hangs

/-- A connection event that is late by more than a wrap of the counter, the set-up before it, and one
for a peer that says nothing once it has asked for the connection. -/
theorem connection_steps_end_of_late :
    ∃ (link next deaf : Link) (w u v : World ScriptedPeer) (c c' silent : Connection),
      link.state = .connectRequest c ∧ Ends link.step w ∧
      Reachable next u ∧ next.state = .connected c' ∧ c'.IsTimed ∧
      Ends next.step (u.later 4294980000) ∧
      deaf.state = .connectRequest silent ∧ ∀ polls, ∃ x,
        deaf.step { v with polls } = .error .outOfPolls x ∧ x.polls = 0 ∧
          x.radio.clock = v.radio.clock.afterReads polls := by
  have passes : testConnecting {} [some ⟨100, [0x01, 0]⟩] (fun link w =>
      w.radio.clock.step = 100 && (link.config.tickRate.interFrameSpace = 150 &&
        ((link.state.connection?.all fun c =>
            link.firstDelivery c w.radio = some ⟨100, [0x01, 0]⟩) &&
          LinkM.test link.step { w with polls := 10 } fun outcome u =>
            outcome.2.state.isConnected && (outcome.2.state.connection?.all fun c' =>
              c'.intervalTicks = 12500)))) = true := by
    decide +kernel
  have passes' : testConnecting {} [] (fun deaf v => deaf.state.connection?.all fun silent =>
      deaf.firstDelivery silent v.radio = none) = true := by
    decide +kernel
  obtain ⟨link, w, c, reached, waiting, passes⟩ := Reachable.of_test passes
  obtain ⟨deaf, v, silent, -, waiting', passes'⟩ := Reachable.of_test passes'
  simp only [waiting, LinkState.connection?, Option.all_some, Bool.and_eq_true,
    decide_eq_true_eq] at passes
  simp only [waiting', LinkState.connection?, Option.all_some, decide_eq_true_eq] at passes'
  obtain ⟨step, space, offers, passes⟩ := passes
  obtain ⟨event, next, u, made, passes⟩ := Step.of_test passes
  rw [Bool.and_eq_true] at passes
  obtain ⟨connected, passes⟩ := passes
  obtain ⟨c', connected⟩ : ∃ c', next.state = .connected c' :=
    LinkState.exists_of_isConnected connected
  simp only [connected, Option.all_some, decide_eq_true_eq] at passes
  have step' : (u.later 4294980000).radio.clock.step = 100 := made.clock_step.trans step
  have timed := (connection_steps_end next u).1 c' (.step reached made) connected
  refine ⟨link, next, deaf, w, u, v, c, c', silent, waiting, ?_, .step reached made, connected, timed,
    ?_, waiting', (connection_steps_end deaf v).2.2 silent waiting' passes'⟩
  · refine ((connection_steps_end link w).2.1 ?_ ?_).2 c _ waiting offers ?_
    · rw [step]; decide
    · rw [step, space]; decide
    · rw [step]; decide
  · refine ((connection_steps_end next (u.later 4294980000)).2.1 ?_ ?_).1 c' connected timed ?_
    · rw [step']; decide
    · rw [step', made.config_eq, space]; decide
    · rw [step', passes]; decide

end Link

end BlePeripheral

import BlePeripheral.Proofs.Link.Ends

/-! Which advertising events end, with a clock that moves by one tick a reading. The interval and the
inter-frame space are awaited at every reading, so whatever they are one of them finds them passed.
While the link listens, every other reading asks the radio instead, and the window is looked at an
even number of ticks after it was opened: a window of as many ticks as the counter can show, which
is an odd number, is never found closed. -/

namespace BlePeripheral

namespace Link

open LinkM

variable {P : Type} [Peer P]

/-- The readings of the clock before the link advertises: those up to the first that finds the
advertising interval passed since the advertisement before, if there was one. -/
def Due (link : Link) (clock : Clock) (n : Nat) : Prop :=
  match link.lastAdv with
  | none => n = 0
  | some last => ∃ i, n = i + 1 ∧
    clock.elapsedAt last (link.config.tickRate.ticksForMs link.config.advIntervalMs) i = true ∧
    ∀ j < i,
      clock.elapsedAt last (link.config.tickRate.ticksForMs link.config.advIntervalMs) j = false

/-- The link listens after its advertisement, for as many ticks as the counter can show, and the
peer has nothing to say. -/
structure Stalls (link : Link) (radio : Radio P) : Prop where
  listens : link.config.mode ≠ .nonConnectable
  longest : (link.config.tickRate.ticksForUs link.config.advRxWindowUs).toNat = 4294967295
  unanswered : ((link.advertisement radio).offer (advChannel link.advIndex)).1.delivery = none

omit [Peer P] in
theorem exists_due {link : Link} {clock : Clock} (unit : clock.step = 1) :
    ∃ n, link.Due clock n := by
  unfold Due
  cases link.lastAdv with
  | none => exact ⟨0, rfl⟩
  | some last =>
    have step : clock.step.toNat = 1 := by rw [unit]; rfl
    have bound := (link.config.tickRate.ticksForMs link.config.advIntervalMs).toNat_lt
    have passes : ∃ n, clock.elapsedAt last
        (link.config.tickRate.ticksForMs link.config.advIntervalMs) (0 + n * 1) = true :=
      Clock.exists_elapsedAt 0 1 (by omega) (by omega)
    obtain ⟨n, passed⟩ := passes
    obtain ⟨i, first⟩ := Clock.exists_first passed
    exact ⟨i + 1, i, rfl, first⟩

theorem elapsedAt_listening {link : Link} {radio : Radio P} (unit : radio.clock.step = 1)
    (span : UInt32) (i : Nat) :
    (link.listening radio).clock.elapsedAt (link.advertisement radio).clock.now span i = true ↔
      span.toNat ≤ (i + 1) % 4294967296 := by
  have step : (link.advertisement radio).clock.step.toNat = 1 := by
    show radio.clock.step.toNat = 1
    rw [unit]
    rfl
  have clock : (link.listening radio).clock = (link.advertisement radio).clock.afterReads 1 := rfl
  rw [clock, Clock.elapsedAt_afterReads, Clock.elapsedAt, hasElapsed, decide_eq_true_eq,
    UInt32.le_iff_toNat_le, Clock.toNat_elapsedSince_now, step, Nat.mul_one, Nat.add_comm 1]

theorem listenEnds_of_offer {link : Link} {radio : Radio P} {delivery : Delivery} {span : UInt32}
    (unit : radio.clock.step = 1)
    (offers : ((link.advertisement radio).offer (advChannel link.advIndex)).1.delivery =
      some delivery) :
    (link.listening radio).ListenEnds (link.advertisement radio).clock.now span := by
  have bound := delivery.delay.toNat_lt
  apply Radio.listenEnds_of_dueAt (n := 2147483647)
  rw [Radio.dueAt, awaited_listening, offers]
  exact (elapsedAt_listening unit delivery.delay _).mpr (by omega)

theorem listenEnds_of_window {link : Link} {radio : Radio P} {span : UInt32}
    (unit : radio.clock.step = 1) (short : span.toNat ≠ 4294967295) :
    (link.listening radio).ListenEnds (link.advertisement radio).clock.now span := by
  have bound := span.toNat_lt
  apply Radio.listenEnds_of_elapsedAt (n := 2147483646)
  exact (elapsedAt_listening unit span _).mpr (by omega)

theorem Stalls.not_heard {link : Link} {radio radio' : Radio P} {heard : Option RxFrame}
    (stalls : link.Stalls radio) (unit : radio.clock.step = 1) :
    ¬ (link.listening radio).Heard (link.advertisement radio).clock.now
      (link.config.tickRate.ticksForUs link.config.advRxWindowUs) heard radio' := by
  intro window
  cases window with
  | frame n opened delivery awaited =>
    rw [awaited_listening, stalls.unanswered] at awaited
    cases awaited
  | silence n early closed =>
    rw [elapsedAt_listening unit, stalls.longest] at closed
    omega

theorem Stalls.not_advertises {link link' : Link} {radio radio' : Radio P}
    {heard : Option RxFrame} {event : LinkEvent} (stalls : link.Stalls radio)
    (unit : radio.clock.step = 1) : ¬ link.Advertises radio heard event link' radio' := by
  intro advertises
  cases advertises with
  | broadcast deaf => exact stalls.listens deaf
  | silence listens window => exact stalls.not_heard unit window
  | answered listens window => exact stalls.not_heard unit window

theorem advertiseNow_ends_of_not_stalls {link : Link} {w : World P}
    (unit : w.radio.clock.step = 1) (goesOn : ¬ link.Stalls w.radio) :
    Ends link.advertiseNow w := by
  have step : w.radio.clock.step.toNat = 1 := by rw [unit]; rfl
  have space := link.config.tickRate.interFrameSpace.toNat_lt
  apply advertiseNow_ends_of_listenEnds (by omega) _ (by omega)
  intro listens
  by_cases longest :
      (link.config.tickRate.ticksForUs link.config.advRxWindowUs).toNat = 4294967295
  · cases offers : ((link.advertisement w.radio).offer (advChannel link.advIndex)).1.delivery with
    | none => exact absurd ⟨listens, longest, offers⟩ goesOn
    | some delivery => exact listenEnds_of_offer unit offers
  · exact listenEnds_of_window unit longest

theorem advertises_of_due {link link' : Link} {w w' : World P} {event : LinkEvent} {n : Nat}
    (h : link.advertise w = .ok (event, link') w') (due : link.Due w.radio.clock n) :
    ∃ heard, link.Advertises (w.radio.afterReads n) heard event link' w'.radio := by
  unfold advertise at h
  unfold Due at due
  cases last : link.lastAdv with
  | none =>
    simp only [last] at h due
    obtain ⟨heard, advertises, -⟩ := advertiseNow_eq_ok h
    rw [due, Radio.afterReads_zero]
    exact ⟨heard, advertises⟩
  | some last' =>
    simp only [last] at h due
    obtain ⟨i, rfl, passed, before⟩ := due
    obtain ⟨_, u, waited, h⟩ := bind_eq_ok.mp h
    obtain ⟨i', rest, rfl, passed', before'⟩ := waitUntil_eq_ok waited
    obtain rfl := Clock.eq_of_first passed before passed' before'
    obtain ⟨heard, advertises, -⟩ := advertiseNow_eq_ok h
    exact ⟨heard, advertises⟩

theorem advertise_ends_of_due {link : Link} {w : World P} {n : Nat}
    (due : link.Due w.radio.clock n) (unit : w.radio.clock.step = 1)
    (goesOn : ¬ link.Stalls (w.radio.afterReads n)) : Ends link.advertise w := by
  unfold advertise
  unfold Due at due
  cases last : link.lastAdv with
  | none =>
    simp only [last] at due
    rw [due, Radio.afterReads_zero] at goesOn
    exact advertiseNow_ends_of_not_stalls unit goesOn
  | some last' =>
    simp only [last] at due
    obtain ⟨i, rfl, passed, before⟩ := due
    apply Ends.bind_of_ok (.of_elapsedAt passed)
    rintro _ u same ⟨polls, waited⟩
    obtain ⟨i', rest, rfl, passed', before'⟩ := waitUntil_eq_ok waited
    obtain rfl := Clock.eq_of_first passed before passed' before'
    exact advertiseNow_ends_of_not_stalls unit goesOn

theorem Stalls.step_hangs {link : Link} {w : World P} {n : Nat}
    (stalls : link.Stalls (w.radio.afterReads n)) (advertising : link.state = .advertising)
    (due : link.Due w.radio.clock n) (unit : w.radio.clock.step = 1) (polls : Nat) :
    ∃ u, link.step { w with polls } = .error .outOfPolls u := by
  cases made : link.step { w with polls } with
  | ok outcome w' =>
    obtain ⟨u, acted, -⟩ := step_eq_ok made
    rw [act, advertising] at acted
    obtain ⟨heard, advertises⟩ := advertises_of_due acted due
    exact absurd advertises (stalls.not_advertises unit)
  | error hang u =>
    cases hang
    exact ⟨u, rfl⟩

/-- With a clock of step 1 an advertising event ends, whatever its interval, its start and the
advertisement before it, and leaves the polls it has no use for, unless it stalls. If it stalls it
goes on for any number of polls. -/
theorem advertising_ends_unless_stalled {link : Link} {w : World P}
    (advertising : link.state = .advertising) (unit : w.radio.clock.step = 1) :
    ∃ n, link.Due w.radio.clock n ∧
      (¬ link.Stalls (w.radio.afterReads n) → Ends link.step w) ∧
      (link.Stalls (w.radio.afterReads n) →
        ∀ polls, ∃ u, link.step { w with polls } = .error .outOfPolls u) := by
  obtain ⟨n, due⟩ : ∃ n, link.Due w.radio.clock n := exists_due unit
  refine ⟨n, due, ?_, ?_⟩
  · intro goesOn
    apply step_ends
    rw [act, advertising]
    exact advertise_ends_of_due due unit goesOn
  · intro stalls polls
    exact stalls.step_hangs advertising due unit polls

/-- A window that is shorter by one tick, across a wrap of the counter. -/
theorem advertising_ends_unless_stalled_of_even_window :
    ∃ (link : Link) (w : World ScriptedPeer), Reachable link w ∧ link.state = .advertising ∧
      w.radio.clock.step = 1 ∧ w.radio.clock.now = 4294967290 ∧
      link.config.mode ≠ .nonConnectable ∧
      (link.config.tickRate.ticksForUs link.config.advRxWindowUs).toNat = 4294967294 ∧
      Ends link.step w := by
  have passes : testFrom { advRxWindowUs := 4294967294 } {} ⟨4294967290, 1⟩ ({} : ScriptedPeer)
      (fun link w => link.state = .advertising && w.radio.clock.step = 1 &&
        w.radio.clock.now = 4294967290 && link.config.mode ≠ .nonConnectable &&
        (link.config.tickRate.ticksForUs link.config.advRxWindowUs).toNat = 4294967294) = true := by
    decide +kernel
  obtain ⟨link, w, started, passes⟩ := start_of_testFrom passes
  simp only [Bool.and_eq_true, decide_eq_true_eq] at passes
  obtain ⟨⟨⟨⟨advertising, unit⟩, now⟩, listens⟩, window⟩ := passes
  obtain ⟨n, -, ends, -⟩ := advertising_ends_unless_stalled advertising unit
  refine ⟨link, w, .start started, advertising, unit, now, listens, window, ends ?_⟩
  intro stalls
  have longest := stalls.longest
  omega

/-- A link with the longest window and a peer that never answers does not get past its first
advertisement, though its clock moves at every reading. -/
theorem silent_advertising_stalls :
    ¬ ∀ (link : Link) (w : World ScriptedPeer), Reachable link w → link.state = .advertising →
      w.radio.clock.step = 1 → Ends link.step w := by
  intro ends
  have passes : testFrom { advRxWindowUs := 4294967295 } {} ⟨0, 1⟩ ({} : ScriptedPeer)
      (fun link w => link.state = .advertising && link.lastAdv = none && w.radio.clock.step = 1 &&
        link.config.mode ≠ .nonConnectable &&
        (link.config.tickRate.ticksForUs link.config.advRxWindowUs).toNat = 4294967295 &&
        ((link.advertisement w.radio).offer (advChannel link.advIndex)).1.delivery = none) = true := by
    decide +kernel
  obtain ⟨link, w, started, passes⟩ := start_of_testFrom passes
  simp only [Bool.and_eq_true, decide_eq_true_eq] at passes
  obtain ⟨⟨⟨⟨⟨advertising, first⟩, unit⟩, listens⟩, longest⟩, unanswered⟩ := passes
  have due : link.Due w.radio.clock 0 := by
    unfold Due
    rw [first]
  have stalls : link.Stalls (w.radio.afterReads 0) := by
    rw [Radio.afterReads_zero]
    exact ⟨listens, longest, unanswered⟩
  obtain ⟨polls, outcome, u, -, returns⟩ := ends link w (.start started) advertising unit
  obtain ⟨u', hangs⟩ := stalls.step_hangs advertising due unit (0 + polls)
  rw [returns 0] at hangs
  cases hangs

end Link

end BlePeripheral

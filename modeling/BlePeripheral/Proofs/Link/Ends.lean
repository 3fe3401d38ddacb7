import BlePeripheral.Proofs.Link.Run

/-! Steps end. Every wait of a connection event is for a span, so with a clock that moves, and
spans that the tick counter can hold, there are enough polls for it. Advertising and the set-up of
a connection may listen for longer, and end if a frame is on its way. What has ended once ends
again, whatever polls are left for it. -/

namespace BlePeripheral

namespace LinkM

variable {P α β : Type}

/-- An action returns, given enough polls, and leaves the others. The clock keeps its step. -/
def Ends (x : LinkM P α) (w : World P) : Prop :=
  ∃ (polls : Nat) (a : α) (w' : World P), w'.radio.clock.step = w.radio.clock.step ∧
    ∀ extra, x { w with polls := extra + polls } = .ok a { w' with polls := extra }

theorem Ends.pure (a : α) (w : World P) : Ends (Pure.pure a : LinkM P α) w :=
  ⟨0, a, w, rfl, fun _ => rfl⟩

theorem Ends.bind_of_ok {x : LinkM P α} {f : α → LinkM P β} {w : World P} (first : Ends x w)
    (rest : ∀ a (u : World P), u.radio.clock.step = w.radio.clock.step →
      (∃ polls, x { w with polls } = .ok a u) → Ends (f a) u) : Ends (x >>= f) w := by
  obtain ⟨polls, a, u, same, ends⟩ := first
  obtain ⟨polls', b, w', same', ends'⟩ := rest a u same ⟨_, ends u.polls⟩
  refine ⟨polls' + polls, b, w', same'.trans same, ?_⟩
  intro extra
  rw [← Nat.add_assoc]
  exact bind_eq_ok.mpr ⟨a, _, ends (extra + polls'), ends' extra⟩

theorem Ends.bind {x : LinkM P α} {f : α → LinkM P β} {w : World P} (first : Ends x w)
    (rest : ∀ a (u : World P), u.radio.clock.step = w.radio.clock.step → Ends (f a) u) :
    Ends (x >>= f) w :=
  first.bind_of_ok fun a u same _ => rest a u same

theorem Ends.note (notice : Notice) (w : World P) : Ends (note notice) w :=
  ⟨0, (), { w with notices := w.notices.push notice }, rfl, fun _ => rfl⟩

theorem Ends.noteAll (new : List Notice) (w : World P) : Ends (noteAll new) w :=
  ⟨0, (), { w with notices := w.notices.appendList new }, rfl, fun _ => rfl⟩

theorem Ends.configure (accessAddress crcInit : UInt32) (phy : Phy) (w : World P) :
    Ends (configure accessAddress crcInit phy) w :=
  ⟨0, (), { w with radio := w.radio.configure accessAddress crcInit phy }, rfl, fun _ => rfl⟩

theorem Ends.send [Peer P] (pdu : Bytes) (channel : UInt8) (w : World P) :
    Ends (send pdu channel) w :=
  ⟨0, (), { w with
    radio := w.radio.transmit channel pdu
    notices := w.notices.push (.pduSent channel pdu) }, rfl, fun _ => rfl⟩

theorem Ends.receive [Peer P] (channel : UInt8) (w : World P) : Ends (receive channel) w :=
  ⟨0, (), { w with
    radio := (w.radio.receive channel).2
    notices := w.notices.appendList (w.radio.receive channel).1 }, rfl, fun _ => rfl⟩

theorem Ends.readClock (w : World P) : Ends (readClock : LinkM P Tick) w :=
  ⟨1, w.radio.clock.now, { w with radio := w.radio.afterRead }, rfl, fun _ => rfl⟩

theorem Ends.of_elapsedAt {start : Tick} {span : UInt32} {w : World P} {n : Nat}
    (passed : w.radio.clock.elapsedAt start span n = true) : Ends (waitUntil start span) w := by
  obtain ⟨n, passed, before⟩ := Clock.exists_first passed
  refine ⟨n + 1, (), { w with radio := w.radio.afterReads (n + 1) }, rfl, ?_⟩
  intro extra
  have waits := waitUntil_of_takes (w := { w with polls := extra + (n + 1) })
    (Clock.waitTakes_of_first passed before)
  rw [if_pos (Nat.le_add_left _ _), Nat.add_sub_cancel] at waits
  exact waits

theorem Ends.waitUntil {start : Tick} {span : UInt32} {w : World P}
    (moves : 0 < w.radio.clock.step.toNat)
    (room : span.toNat + w.radio.clock.step.toNat ≤ 4294967296) :
    Ends (waitUntil start span) w := by
  have passes : ∃ n, w.radio.clock.elapsedAt start span (0 + n * 1) = true :=
    Clock.exists_elapsedAt 0 1 (by simpa using moves) (by simpa using room)
  obtain ⟨n, passed⟩ := passes
  exact .of_elapsedAt passed

theorem Ends.of_listenEnds {start : Tick} {span : UInt32} {w : World P}
    (h : w.radio.ListenEnds start span) : Ends (LinkM.listen start span) w := by
  obtain ⟨polls, heard, radio, step, ends⟩ := h
  refine ⟨polls, heard, { w with radio }, step, ?_⟩
  intro extra
  unfold LinkM.listen awaitRadio
  simp only [ends]

theorem Ends.listen {start : Tick} {span : UInt32} {w : World P}
    (moves : 0 < w.radio.clock.step.toNat)
    (room : span.toNat + 2 * w.radio.clock.step.toNat ≤ 4294967296) :
    Ends (listen start span) w := by
  have closes : ∃ n, w.radio.clock.elapsedAt start span (1 + n * 2) = true :=
    Clock.exists_elapsedAt 1 2 (by omega) room
  obtain ⟨n, closed⟩ := closes
  rw [Nat.add_comm, Nat.mul_comm] at closed
  exact .of_listenEnds (Radio.listenEnds_of_elapsedAt closed)

theorem Ends.waitForFrame {opened : Tick} {delivery : Delivery} {w : World P}
    (awaited : w.radio.awaited = some (opened, delivery)) (moves : 0 < w.radio.clock.step.toNat)
    (room : delivery.delay.toNat + w.radio.clock.step.toNat ≤ 4294967296) :
    Ends waitForFrame w := by
  obtain ⟨n, due⟩ := Radio.exists_dueAt 1 awaited (by omega) (by omega)
  obtain ⟨polls, frame, radio, step, ends⟩ := Radio.waitEnds_of_dueAt due
  refine ⟨polls, frame, { w with radio }, step, ?_⟩
  intro extra
  unfold LinkM.waitForFrame awaitRadio
  simp only [ends]

end LinkM

namespace Link

open LinkM

variable {P : Type} [Peer P]

omit [Peer P] in
theorem tearDown_ends (link : Link) (w : World P) : Ends link.tearDown w :=
  ⟨0, (), { w with radio := w.radio.idle.configure advAccessAddress advCrcInit link.config.phy },
    rfl, fun _ => rfl⟩

omit [Peer P] in
theorem control_ends (link : Link) (c : Connection) (request : ControlPdu) (w : World P) :
    Ends (link.control c request) w :=
  ⟨0, (link.controls.dispatch request c.context).1, { w with
    notices := (w.notices.push (.controlReceived request c.eventCounter)).appendList
      (link.controls.dispatch request c.context).2
    dispatched := w.dispatched.push request }, rfl, fun _ => rfl⟩

omit [Peer P] in
theorem supervise_ends (link : Link) (c : Connection) (event : LinkEvent) (w : World P) :
    Ends (link.supervise c event) w := by
  unfold supervise
  apply Ends.bind (.readClock w)
  intro now u _
  dsimp only
  split
  · exact .pure _ _
  · apply Ends.bind (.note _ _)
    intro _ u _
    apply Ends.bind (link.tearDown_ends u)
    intro _ u _
    exact .pure _ _

theorem acceptData_ends {link : Link} {c : Connection} {frame : RxFrame} {pdu : DataPdu}
    {w : World P} (moves : 0 < w.radio.clock.step.toNat)
    (room : link.config.tickRate.interFrameSpace.toNat + w.radio.clock.step.toNat ≤ 4294967296) :
    Ends (link.acceptData c c.channel frame.timestamp pdu) w := by
  unfold acceptData
  simp only [sendAck_eq]
  apply Ends.bind (.waitUntil moves room)
  intro _ u _
  apply Ends.bind (.send _ _ _)
  intro _ u _
  split
  · exact .pure _ _
  · apply Ends.bind (link.control_ends _ _ _)
    intro action u _
    cases action with
    | keepConnection => exact .pure _ _
    | terminate =>
      apply Ends.bind (.note _ _)
      intro _ u _
      apply Ends.bind (link.tearDown_ends u)
      intro _ u _
      exact .pure _ _

theorem react_ends {link : Link} {c : Connection} {heard : Option RxFrame} {w : World P}
    (moves : 0 < w.radio.clock.step.toNat)
    (room : link.config.tickRate.interFrameSpace.toNat + w.radio.clock.step.toNat ≤ 4294967296) :
    Ends (link.react c heard) w := by
  cases heard with
  | none =>
    apply Ends.bind (.note _ _)
    intro _ u _
    exact link.supervise_ends _ _ _
  | some frame =>
    apply Ends.bind (.note _ _)
    intro _ u same
    rw [← same] at moves room
    split
    · apply Ends.bind (.note _ _)
      intro _ u _
      exact link.supervise_ends _ _ _
    · exact acceptData_ends moves room

theorem hear_ends {c : Connection} {w : World P} (moves : 0 < w.radio.clock.step.toNat)
    (timed : c.IsTimed)
    (room : c.intervalTicks.toNat + 2 * w.radio.clock.step.toNat ≤ 4294967296) :
    Ends (hear c) w := by
  have opens : c.nextEvent.window.opening.toNat ≤ c.nextEvent.window.closing.toNat :=
    UInt32.le_iff_toNat_le.mp timed.opens
  have closes : c.nextEvent.window.closing.toNat ≤ c.intervalTicks.toNat :=
    UInt32.le_iff_toNat_le.mp timed.closes
  unfold hear
  apply Ends.bind (.waitUntil moves (by omega))
  intro _ u same
  rw [← same] at moves room
  apply Ends.bind (.waitUntil moves (by omega))
  intro _ u same
  rw [← same] at moves room
  apply Ends.bind (.receive _ _)
  intro _ u same
  rw [← same] at moves room
  exact .listen moves (by omega)

omit [Peer P] in
theorem awaitWindow_ends {c : Connection} {w u : World P} (h : awaitWindow c w = .ok () u) :
    Ends (awaitWindow c) w := by
  obtain ⟨i, j, rest, -, anchor, beforeAnchor, opening, -⟩ := awaitWindow_eq_ok h
  apply Ends.bind_of_ok (.of_elapsedAt anchor)
  rintro _ v - ⟨polls, waited⟩
  obtain ⟨i', rest, rfl, anchor', beforeAnchor'⟩ := waitUntil_eq_ok waited
  obtain rfl := Clock.eq_of_first anchor beforeAnchor anchor' beforeAnchor'
  exact .of_elapsedAt opening

omit [Peer P] in
theorem awaitWindow_radio_eq {c : Connection} {w u v : World P} {polls : Nat}
    (h : awaitWindow c w = .ok () u) (h' : awaitWindow c { w with polls } = .ok () v) :
    v.radio = u.radio := by
  obtain ⟨i, j, rest, rfl, anchor, beforeAnchor, opening, beforeOpening⟩ := awaitWindow_eq_ok h
  obtain ⟨i', j', rest', rfl, anchor', beforeAnchor', opening', beforeOpening'⟩ :=
    awaitWindow_eq_ok h'
  obtain rfl := Clock.eq_of_first anchor beforeAnchor anchor' beforeAnchor'
  obtain rfl := Clock.eq_of_first opening beforeOpening opening' beforeOpening'
  rfl

theorem hear_ends_of_listenEnds {c : Connection} {w u : World P} (armed : awaitWindow c w = .ok () u)
    (ends : (u.radio.receive c.nextEvent.channel).2.ListenEnds c.nextEvent.anchor c.window.closing) :
    Ends (hear c) w := by
  rw [hear_eq]
  apply Ends.bind_of_ok (awaitWindow_ends armed)
  rintro _ v - ⟨polls, waited⟩
  apply Ends.bind_of_ok (.receive _ v)
  rintro _ x - ⟨polls, received⟩
  rw [receive_apply] at received
  cases received
  rw [← awaitWindow_radio_eq armed waited] at ends
  exact .of_listenEnds ends

theorem hear_ends_of_ok {c : Connection} {w u : World P} {polls : Nat} {heard : Option RxFrame}
    (hears : hear c { w with polls } = .ok heard u) : Ends (hear c) w := by
  rw [hear_eq] at hears
  obtain ⟨_, v, armed, hears⟩ := bind_eq_ok.mp hears
  obtain ⟨_, x, received, hears⟩ := bind_eq_ok.mp hears
  rw [receive_apply] at received
  cases received
  obtain ⟨radio, rest, rfl, window⟩ := listen_eq_ok hears
  have ends : Ends (hear c) { w with polls } := hear_ends_of_listenEnds armed window.listenEnds
  exact ends

theorem connectionEvent_ends_of_hear {link : Link} {c : Connection} {w : World P}
    (hears : Ends (hear c) w) (moves : 0 < w.radio.clock.step.toNat)
    (room : link.config.tickRate.interFrameSpace.toNat + w.radio.clock.step.toNat ≤ 4294967296) :
    Ends (link.connectionEvent c) w := by
  apply Ends.bind hears
  intro heard u same
  rw [← same] at moves room
  exact react_ends moves room

theorem connectionEvent_ends {link : Link} {c : Connection} {w : World P}
    (moves : 0 < w.radio.clock.step.toNat) (timed : c.IsTimed)
    (room : c.intervalTicks.toNat + 2 * w.radio.clock.step.toNat ≤ 4294967296)
    (room' : link.config.tickRate.interFrameSpace.toNat + w.radio.clock.step.toNat ≤ 4294967296) :
    Ends (link.connectionEvent c) w :=
  connectionEvent_ends_of_hear (hear_ends moves timed room) moves room'

theorem step_ends {link : Link} {w : World P} (acts : Ends link.act w) : Ends link.step w := by
  apply Ends.bind acts
  intro outcome u _
  dsimp only
  split
  · apply Ends.bind (.note _ _)
    intro _ u _
    exact .pure _ _
  · exact .pure _ _

theorem exists_step_of_act {link : Link} {w : World P} (acts : Ends link.act w) :
    ∃ event link' w', link.Step w event link' w' := by
  obtain ⟨polls, ⟨event, link'⟩, w', -, steps⟩ := step_ends acts
  exact ⟨event, link', _, polls, by simpa using steps 0⟩

theorem exists_step {link : Link} {c : Connection} {w : World P}
    (connected : link.state = .connected c) (moves : 0 < w.radio.clock.step.toNat)
    (timed : c.IsTimed)
    (room : c.intervalTicks.toNat + 2 * w.radio.clock.step.toNat ≤ 4294967296)
    (room' : link.config.tickRate.interFrameSpace.toNat + w.radio.clock.step.toNat ≤ 4294967296) :
    ∃ event link' w', link.Step w event link' w' := by
  apply exists_step_of_act
  rw [act, connected]
  exact connectionEvent_ends moves timed room room'

theorem answer_ends {link : Link} {channel : UInt8} {frame : RxFrame} {w : World P}
    (moves : 0 < w.radio.clock.step.toNat)
    (room : link.config.tickRate.interFrameSpace.toNat + w.radio.clock.step.toNat ≤ 4294967296) :
    Ends (link.answer channel frame) w := by
  unfold answer
  split
  · apply Ends.bind (.note _ _)
    intro _ u _
    exact .pure _ _
  · split
    · unfold answerScan
      split
      · exact .pure _ _
      · split
        · apply Ends.bind (.waitUntil moves room)
          intro _ u _
          apply Ends.bind (.send _ _ _)
          intro _ u _
          apply Ends.bind (.note _ _)
          intro _ u _
          exact .pure _ _
        · exact .pure _ _
    · exact .pure _ _
  · split
    · unfold acceptConnect
      split
      · split
        · apply Ends.bind (.note _ _)
          intro _ u _
          exact .pure _ _
        · apply Ends.bind (.noteAll _ _)
          intro _ u _
          apply Ends.bind (.note _ _)
          intro _ u _
          exact .pure _ _
      · exact .pure _ _
    · exact .pure _ _
  · exact .pure _ _

theorem advertiseNow_ends_of_listenEnds {link : Link} {w : World P}
    (moves : 0 < w.radio.clock.step.toNat)
    (ends : link.config.mode ≠ .nonConnectable → (link.listening w.radio).ListenEnds
      (link.advertisement w.radio).clock.now
      (link.config.tickRate.ticksForUs link.config.advRxWindowUs))
    (room : link.config.tickRate.interFrameSpace.toNat + w.radio.clock.step.toNat ≤ 4294967296) :
    Ends link.advertiseNow w := by
  unfold advertiseNow
  apply Ends.bind_of_ok (.readClock w)
  rintro now u first ⟨polls, read⟩
  have radio : u.radio = w.radio.afterReads 1 := by
    obtain ⟨_, -, rfl⟩ := readClock_eq_ok read
    rfl
  apply Ends.bind_of_ok (.send _ _ u)
  rintro _ v second ⟨polls, sent⟩
  have radio : v.radio = link.advertisement w.radio := by
    rw [send_apply] at sent
    cases sent
    rw [advertisement, ← radio]
  split
  · exact .pure _ _
  rename_i listens
  apply Ends.bind_of_ok (.receive _ v)
  rintro _ x third ⟨polls, received⟩
  have radio' : x.radio = ((link.advertisement w.radio).receive (advChannel link.advIndex)).2 := by
    rw [receive_apply] at received
    cases received
    rw [← radio]
  apply Ends.bind_of_ok (.readClock x)
  rintro opened y fourth ⟨polls, read⟩
  obtain ⟨_, rfl, rfl⟩ := readClock_eq_ok read
  have step : x.radio.clock.step = w.radio.clock.step := by rw [third, second, first]
  have begun : x.radio.clock.now = (link.advertisement w.radio).clock.now := by rw [radio']; rfl
  have heard := ends listens
  rw [listening, ← radio'] at heard
  rw [begun]
  apply Ends.bind (.of_listenEnds heard)
  intro heard z fifth
  cases heard with
  | none => exact .pure _ _
  | some frame =>
    apply Ends.bind (.note _ _)
    intro _ z' last
    refine answer_ends ?_ ?_ <;> rw [last, fifth]
    · exact step ▸ moves
    · exact step ▸ room

theorem advertiseNow_ends {link : Link} {delivery : Delivery} {w : World P}
    (moves : 0 < w.radio.clock.step.toNat)
    (offers : ((link.advertisement w.radio).offer (advChannel link.advIndex)).1.delivery =
      some delivery)
    (room : delivery.delay.toNat + 2 * w.radio.clock.step.toNat ≤ 4294967296)
    (room' : link.config.tickRate.interFrameSpace.toNat + w.radio.clock.step.toNat ≤ 4294967296) :
    Ends link.advertiseNow w := by
  apply advertiseNow_ends_of_listenEnds moves _ room'
  intro _
  have awaited : (link.listening w.radio).awaited =
      some ((link.advertisement w.radio).clock.now, delivery) := by
    rw [awaited_listening, offers]
    rfl
  obtain ⟨n, due⟩ := Radio.exists_dueAt 2 awaited (Nat.mul_pos (by decide) moves) room
  exact Radio.listenEnds_of_dueAt due

theorem advertise_ends {link : Link} {delivery : Delivery} {w : World P}
    (moves : 0 < w.radio.clock.step.toNat)
    (interval : (link.config.tickRate.ticksForMs link.config.advIntervalMs).toNat +
      w.radio.clock.step.toNat ≤ 4294967296)
    (offers : ∀ n, ((link.advertisement (w.radio.afterReads n)).offer
      (advChannel link.advIndex)).1.delivery = some delivery)
    (room : delivery.delay.toNat + 2 * w.radio.clock.step.toNat ≤ 4294967296)
    (room' : link.config.tickRate.interFrameSpace.toNat + w.radio.clock.step.toNat ≤ 4294967296) :
    Ends link.advertise w := by
  unfold advertise
  split
  · exact advertiseNow_ends moves (by simpa using offers 0) room room'
  · apply Ends.bind_of_ok (.waitUntil moves interval)
    rintro _ u same ⟨polls, waited⟩
    have radio : ∃ n, u.radio = w.radio.afterReads n := by
      obtain ⟨n, _, rfl, -, -⟩ := waitUntil_eq_ok waited
      exact ⟨n + 1, rfl⟩
    obtain ⟨n, radio⟩ := radio
    rw [← same] at moves room room'
    exact advertiseNow_ends moves (by rw [radio]; exact offers n) room room'

theorem establish_ends {link : Link} {c : Connection} {delivery : Delivery} {w : World P}
    (moves : 0 < w.radio.clock.step.toNat)
    (offers : ((w.radio.configure c.context.accessAddress c.context.crcInit
      link.config.phy).offer c.channel).1.delivery = some delivery)
    (room : delivery.delay.toNat + w.radio.clock.step.toNat ≤ 4294967296)
    (room' : link.config.tickRate.interFrameSpace.toNat + w.radio.clock.step.toNat ≤ 4294967296) :
    Ends (link.establish c) w := by
  unfold establish
  apply Ends.bind_of_ok (.configure _ _ _ w)
  rintro _ u first ⟨polls, configured⟩
  have radio : u.radio =
      w.radio.configure c.context.accessAddress c.context.crcInit link.config.phy := by
    rw [configure_apply] at configured
    cases configured
    rfl
  apply Ends.bind_of_ok (.receive _ u)
  rintro _ v second ⟨polls, received⟩
  have radio : v.radio = link.awaiting c w.radio := by
    rw [receive_apply] at received
    cases received
    rw [awaiting, ← radio]
  have awaited : v.radio.awaited = some (w.radio.clock.now, delivery) := by
    rw [radio, awaiting, Radio.awaited_receive, offers]
    rfl
  rw [← first, ← second] at moves room room'
  apply Ends.bind (.waitForFrame awaited moves room)
  intro frame x third
  apply Ends.bind (.note _ _)
  intro _ y fourth
  rw [← third, ← fourth] at moves room'
  simp only [sendAck_eq]
  apply Ends.bind (.waitUntil moves room')
  intro _ u _
  apply Ends.bind (.send _ _ _)
  intro _ u _
  apply Ends.bind (.readClock _)
  intro anchor u _
  apply Ends.bind (.note _ _)
  intro _ u _
  exact .pure _ _

end Link

end BlePeripheral

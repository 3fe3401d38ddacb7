import BlePeripheral.Proofs.Air.Shift
import BlePeripheral.Proofs.Link.Run

/-! A link does not see where its tick counter started. It keeps ticks in three places, the
anchor, the last reception and the last advertisement; with these moved along, a link makes the
same steps in a world whose counter is ahead. -/

namespace BlePeripheral

def Connection.shift (k : Tick) (c : Connection) : Connection :=
  { c with anchor := c.anchor + k, lastRx := c.lastRx + k }

/-- Before its first frame a connection holds no ticks yet. -/
def LinkState.shift (k : Tick) : LinkState → LinkState
  | advertising => advertising
  | connectRequest c => connectRequest c
  | connected c => connected (c.shift k)

def Link.shift (k : Tick) (link : Link) : Link :=
  { link with state := link.state.shift k, lastAdv := link.lastAdv.map (· + k) }

def Stage.shift (k : Tick) (stage : Stage) : Stage :=
  ⟨stage.before.shift k, stage.event, stage.after.shift k⟩

@[simp] theorem LinkState.phase_shift (k : Tick) (state : LinkState) :
    (state.shift k).phase = state.phase := by
  cases state <;> rfl

theorem Connection.nextEvent_shift (k : Tick) (c : Connection) :
    (c.shift k).nextEvent = c.nextEvent.shift k := by
  have anchor : c.anchor + k + c.intervalTicks = c.anchor + c.intervalTicks + k := by ac_rfl
  simp only [Connection.shift, Connection.nextEvent, anchor]

namespace Link

@[simp] theorem config_shift (k : Tick) (link : Link) : (link.shift k).config = link.config := rfl

@[simp] theorem prepared_shift (k : Tick) (link : Link) :
    (link.shift k).prepared = link.prepared := rfl

@[simp] theorem advIndex_shift (k : Tick) (link : Link) :
    (link.shift k).advIndex = link.advIndex := rfl

open LinkM

variable {P : Type} [Peer P] {k : Tick}

def shiftOutcome (k : Tick) (outcome : LinkEvent × Link) : LinkEvent × Link :=
  (outcome.1, outcome.2.shift k)

def history : Nat → Link → LinkM P (List Stage)
  | 0, _ => return []
  | n + 1, link => do
    let (event, next) ← link.step
    let rest ← history n next
    return ⟨link, event, next⟩ :: rest

omit [Peer P] in
theorem outcome_shifts (event : LinkEvent) (link : Link) :
    Shifts k (shiftOutcome k) (return (event, link) : LinkM P _)
      (return (event, link.shift k)) :=
  .pure (shiftOutcome k) (event, link)

theorem answerScan_shifts (blind : Peer.IsTickBlind P) (link : Link) (scanner : DeviceAddress)
    (channel : UInt8) (receivedAt : Tick) :
    Shifts k (shiftOutcome k) (link.answerScan scanner channel receivedAt : LinkM P _)
      ((link.shift k).answerScan scanner channel (receivedAt + k)) := by
  unfold answerScan
  rw [prepared_shift, config_shift]
  split
  · exact outcome_shifts _ link
  · apply Shifts.ite
    · apply Shifts.bind (.waitUntil _ _)
      intro _
      apply Shifts.bind (.send blind _ _)
      intro _
      apply Shifts.bind (.note _ _)
      intro _
      exact outcome_shifts _ link
    · exact outcome_shifts _ link

omit [Peer P] in
theorem acceptConnect_shifts (link : Link) (request : ConnectRequest) :
    Shifts k (shiftOutcome k) (link.acceptConnect request : LinkM P _)
      ((link.shift k).acceptConnect request) := by
  unfold acceptConnect
  rw [config_shift]
  apply Shifts.ite
  · split
    · apply Shifts.bind (.note _ _)
      intro _
      exact outcome_shifts _ link
    · rename_i context _
      apply Shifts.bind (.noteAll _ _)
      intro _
      apply Shifts.bind (.note _ _)
      intro _
      exact outcome_shifts _ { link with
        state := .connectRequest (Connection.ofContext context link.config.tickRate) }
  · exact outcome_shifts _ link

theorem answer_shifts (blind : Peer.IsTickBlind P) (link : Link) (channel : UInt8)
    (frame : RxFrame) :
    Shifts k (shiftOutcome k) (link.answer channel frame : LinkM P _)
      ((link.shift k).answer channel (frame.shift k)) := by
  unfold answer
  dsimp only [RxFrame.shift]
  rw [config_shift]
  split
  · apply Shifts.bind (.note _ _)
    intro _
    exact outcome_shifts _ link
  · apply Shifts.ite
    · exact answerScan_shifts blind link _ _ _
    · exact outcome_shifts _ link
  · apply Shifts.ite
    · exact acceptConnect_shifts link _
    · exact outcome_shifts _ link
  · exact outcome_shifts _ link

theorem advertiseNow_shifts (blind : Peer.IsTickBlind P) (link : Link) :
    Shifts k (shiftOutcome k) (link.advertiseNow : LinkM P _) (link.shift k).advertiseNow := by
  unfold advertiseNow
  rw [config_shift, prepared_shift, advIndex_shift]
  apply Shifts.bind .readClock
  intro now
  apply Shifts.bind (.send blind _ _)
  intro _
  apply Shifts.ite
  · exact outcome_shifts _ (link.advertisedAt now)
  · apply Shifts.bind (.receive blind _)
    intro _
    apply Shifts.bind .readClock
    intro opened
    apply Shifts.bind (.listen _ _)
    intro heard
    cases heard with
    | none =>
      exact outcome_shifts _ (link.advertisedAt now)
    | some frame =>
      apply Shifts.bind (.note _ _)
      intro _
      exact answer_shifts blind (link.advertisedAt now) _ _

theorem advertise_shifts (blind : Peer.IsTickBlind P) (link : Link) :
    Shifts k (shiftOutcome k) (link.advertise : LinkM P _) ((link.shift k).advertise) := by
  have lastAdv : (link.shift k).lastAdv = link.lastAdv.map (· + k) := rfl
  unfold advertise
  rw [lastAdv, config_shift]
  cases link.lastAdv with
  | none => exact advertiseNow_shifts blind link
  | some last =>
    apply Shifts.bind (.waitUntil _ _)
    intro _
    exact advertiseNow_shifts blind link

theorem establish_shifts (blind : Peer.IsTickBlind P) (link : Link) (c : Connection) :
    Shifts k (shiftOutcome k) (link.establish c : LinkM P _) ((link.shift k).establish c) := by
  unfold establish
  rw [config_shift]
  apply Shifts.bind (.configure _ _ _)
  intro _
  apply Shifts.bind (.receive blind _)
  intro _
  apply Shifts.bind .waitForFrame
  intro frame
  apply Shifts.bind (.note _ _)
  intro _
  apply Shifts.bind (.waitUntil _ _)
  intro _
  simp only [sendAck_eq]
  apply Shifts.bind (.send blind _ _)
  intro _
  apply Shifts.bind .readClock
  intro anchor
  apply Shifts.bind (.note _ _)
  intro _
  exact outcome_shifts _ { link with state := .connected (c.established frame anchor) }

omit [Peer P] in
theorem tearDown_shifts (link : Link) :
    Shifts k id (link.tearDown : LinkM P Unit) (link.shift k).tearDown := by
  unfold tearDown
  rw [config_shift]
  apply Shifts.bind .idle
  intro _
  exact .configure _ _ _

omit [Peer P] in
theorem supervise_shifts (link : Link) (c : Connection) (event : LinkEvent) :
    Shifts k (shiftOutcome k) (link.supervise c event : LinkM P _)
      ((link.shift k).supervise (c.shift k) event) := by
  unfold supervise
  apply Shifts.bind .readClock
  intro now
  have lastRx : (c.shift k).lastRx = c.lastRx + k := rfl
  have timeout : (c.shift k).supervisionTicks = c.supervisionTicks := rfl
  dsimp only
  rw [lastRx, timeout, elapsedSince_add_add]
  apply Shifts.ite
  · exact outcome_shifts _ { link with state := .connected c }
  · apply Shifts.bind (.note _ _)
    intro _
    apply Shifts.bind link.tearDown_shifts
    intro _
    exact outcome_shifts _ { link with state := .advertising }

omit [Peer P] in
theorem control_shifts (link : Link) (c : Connection) (request : ControlPdu) :
    Shifts k id (link.control c request : LinkM P _)
      ((link.shift k).control (c.shift k) request) := by
  unfold control
  apply Shifts.bind (.note _ _)
  intro _
  exact .dispatch _ _ _

theorem acceptData_shifts (blind : Peer.IsTickBlind P) (link : Link) (c : Connection)
    (frame : RxFrame) (pdu : DataPdu) :
    Shifts k (shiftOutcome k) (link.acceptData c c.channel frame.timestamp pdu : LinkM P _)
      ((link.shift k).acceptData (c.shift k) (c.shift k).channel (frame.shift k).timestamp pdu) := by
  have same : (c.shift k).ack = c.ack := rfl
  have channel : (c.shift k).channel = c.channel := rfl
  unfold acceptData
  rw [config_shift, same, channel]
  apply Shifts.bind (.waitUntil _ _)
  intro _
  simp only [sendAck_eq]
  apply Shifts.bind (.send blind _ _)
  intro _
  split
  · exact outcome_shifts _ _
  · apply Shifts.bind (control_shifts _ _ _)
    intro action
    cases action with
    | keepConnection => exact outcome_shifts _ _
    | terminate =>
      apply Shifts.bind (.note _ _)
      intro _
      apply Shifts.bind link.tearDown_shifts
      intro _
      exact outcome_shifts _ { link with state := .advertising }

theorem hear_shifts (blind : Peer.IsTickBlind P) (c : Connection) :
    Shifts k (Option.map (RxFrame.shift k)) (hear c : LinkM P _) (hear (c.shift k)) := by
  unfold hear
  rw [Connection.nextEvent_shift]
  apply Shifts.bind (.waitUntil _ _)
  intro _
  apply Shifts.bind (.waitUntil _ _)
  intro _
  apply Shifts.bind (.receive blind _)
  intro _
  exact .listen _ _

theorem react_shifts (blind : Peer.IsTickBlind P) (link : Link) (c : Connection)
    (heard : Option RxFrame) :
    Shifts k (shiftOutcome k) (link.react c heard : LinkM P _)
      ((link.shift k).react (c.shift k) (heard.map (RxFrame.shift k))) := by
  cases heard with
  | none =>
    apply Shifts.bind (.note _ _)
    intro _
    exact link.supervise_shifts { c with missed := c.missed + 1 } _
  | some frame =>
    apply Shifts.bind (.note _ _)
    intro _
    have bytes : (frame.shift k).bytes = frame.bytes := rfl
    rw [bytes]
    cases DataPdu.ofBytes frame.bytes with
    | error defect =>
      apply Shifts.bind (.note _ _)
      intro _
      exact link.supervise_shifts c _
    | ok pdu => exact acceptData_shifts blind link c frame pdu

theorem step_shifts (blind : Peer.IsTickBlind P) (link : Link) :
    Shifts k (shiftOutcome k) (link.step : LinkM P _) (link.shift k).step := by
  have acts : Shifts k (shiftOutcome k) (link.act : LinkM P _) (link.shift k).act := by
    have shifted : (link.shift k).state = link.state.shift k := rfl
    unfold act
    rw [shifted]
    cases link.state with
    | advertising => exact advertise_shifts blind link
    | connectRequest c => exact establish_shifts blind link c
    | connected c =>
      apply Shifts.bind (hear_shifts blind c)
      intro heard
      rw [Connection.nextEvent_shift]
      exact react_shifts blind link c.nextEvent heard
  unfold step
  apply Shifts.bind acts
  intro outcome
  have before : (link.shift k).state.phase = link.state.phase := LinkState.phase_shift k link.state
  have after : (shiftOutcome k outcome).2.state.phase = outcome.2.state.phase :=
    LinkState.phase_shift k outcome.2.state
  dsimp only
  rw [before, after]
  apply Shifts.ite
  · apply Shifts.bind (.note _ _)
    intro _
    exact outcome_shifts _ _
  · exact outcome_shifts _ _

theorem history_shifts (blind : Peer.IsTickBlind P) (n : Nat) (link : Link) :
    Shifts k (List.map (Stage.shift k)) (history n link : LinkM P _) (history n (link.shift k)) := by
  induction n generalizing link with
  | zero => exact .pure _ _
  | succ n ih =>
    apply Shifts.bind (step_shifts blind link)
    intro outcome
    apply Shifts.bind (ih outcome.2)
    intro rest
    exact .pure (List.map (Stage.shift k)) (⟨link, outcome.1, outcome.2⟩ :: rest)

omit [Peer P] in
theorem shifted_initial (peer : P) (step : UInt32) (s k : Tick) :
    Radio.Shifted k { clock := ⟨s.toNat, step⟩, peer } { clock := ⟨(s + k).toNat, step⟩, peer } := by
  have now (t : Tick) : Time.tick t.toNat = t := UInt32.ofNat_toNat
  refine ⟨⟨?_, rfl⟩, rfl, rfl, rfl, rfl, rfl⟩
  unfold Clock.now
  rw [now, now]

/-- Nothing that a link does depends on where its tick counter starts. From another start tick
it makes the same steps with the same events, its radio does the same as many ticks later, and
while connected its anchor and its last reception are as many ticks later. -/
theorem start_tick_invariant (blind : Peer.IsTickBlind P) {config : LinkConfig}
    {controls : ControlTable} {peer : P} {step : UInt32} {s k : Tick} {link : Link} {w : World P}
    (started : start config controls { clock := ⟨s.toNat, step⟩, peer } = .ok (link, w)) :
    ∃ w', start config controls { clock := ⟨(s + k).toNat, step⟩, peer } = .ok (link, w') ∧
      ∀ n polls stages w₁, history n link { w with polls } = .ok stages w₁ →
        ∃ w₁', history n link { w' with polls } = .ok (stages.map (Stage.shift k)) w₁' ∧
          w₁'.radio.journal.toList.map (RadioEvent.shown 0) =
            w₁.radio.journal.toList.map (RadioEvent.shown k) ∧
          w₁'.radio.clock.now = w₁.radio.clock.now + k ∧ w₁'.radio.peer = w₁.radio.peer := by
  obtain ⟨prepared, prepares, rfl, rfl⟩ := start_eq_ok.mp started
  refine ⟨_, start_eq_ok.mpr ⟨prepared, prepares, rfl, rfl⟩, ?_⟩
  intro n polls stages w₁ made
  have radios := (shifted_initial peer step s k).configure advAccessAddress advCrcInit config.phy
  have worlds : World.Shifted k
      { radio := Radio.configure { clock := ⟨s.toNat, step⟩, peer } advAccessAddress advCrcInit
          config.phy
        polls
        notices := #[.advertisingAs config.address config.mode config.advIntervalMs] }
      { radio := Radio.configure { clock := ⟨(s + k).toNat, step⟩, peer } advAccessAddress
          advCrcInit config.phy
        polls
        notices := #[.advertisingAs config.address config.mode config.advIntervalMs] } :=
    ⟨radios, rfl, rfl⟩
  obtain ⟨w₁', made', shifted⟩ := (history_shifts blind n _).eq_ok worlds made
  exact ⟨w₁', made', shifted.radio.journal, shifted.radio.clock.now, shifted.radio.peer⟩

theorem ScriptedPeer.isTickBlind : Peer.IsTickBlind ScriptedPeer :=
  ⟨fun _ _ _ _ _ => rfl, fun _ _ _ _ _ _ => rfl⟩

/-- Four steps with a peer that connects: the first counter wraps on the way, the second one
starts behind the wrap. -/
theorem start_tick_invariant_across_wrap :
    ∃ (link : Link) (w w' : World ScriptedPeer) (stages : List Stage) (w₁ w₁' : World ScriptedPeer),
      Peer.IsTickBlind ScriptedPeer ∧
      start {} {}
        { clock := ⟨(0xFFFFF000 : Tick).toNat, 100⟩
          peer := connectingPeer [some ⟨100, [0x01, 0]⟩] } = .ok (link, w) ∧
      start {} {}
        { clock := ⟨((0xFFFFF000 : Tick) + 0x2000).toNat, 100⟩
          peer := connectingPeer [some ⟨100, [0x01, 0]⟩] } = .ok (link, w') ∧
      history 4 link { w with polls := 1000 } = .ok stages w₁ ∧ 4294967296 < w₁.radio.clock.time ∧
      history 4 link { w' with polls := 1000 } = .ok (stages.map (Stage.shift 0x2000)) w₁' ∧
      w₁'.radio.journal.toList.map (RadioEvent.shown 0) =
        w₁.radio.journal.toList.map (RadioEvent.shown 0x2000) := by
  have passes : testStart {} [some ⟨100, [0x01, 0]⟩] (0xFFFFF000 : Tick).toNat
      (fun link w => LinkM.test (history 4 link) { w with polls := 1000 } fun _ w₁ =>
        4294967296 < w₁.radio.clock.time) = true := by
    decide +kernel
  obtain ⟨link, w, started, passes⟩ := start_of_test passes
  obtain ⟨stages, w₁, made, wrapped⟩ := LinkM.eq_ok_of_test passes
  obtain ⟨w', started', same⟩ := start_tick_invariant ScriptedPeer.isTickBlind started
  obtain ⟨w₁', made', journal, -, -⟩ := same 4 1000 stages w₁ made
  exact ⟨link, w, w', stages, w₁, w₁', ScriptedPeer.isTickBlind, started, started', made,
    of_decide_eq_true wrapped, made', journal⟩

end Link

end BlePeripheral

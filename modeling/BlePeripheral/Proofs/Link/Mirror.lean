import BlePeripheral.Proofs.Air.Mirror
import BlePeripheral.Proofs.Link.Walk

/-! A connection does not see what the link has done before. The actions of a link that has one
read the configuration, the handlers and the connection, so two links that share these do the
same in worlds that differ in their past only. -/

namespace BlePeripheral

namespace Link

/-- The links have been set up alike and are in the same state. Their places in the advertising
schedule may differ. -/
structure Twins (link link' : Link) : Prop where
  config : link'.config = link.config
  controls : link'.controls = link.controls
  state : link'.state = link.state

theorem Twins.tickRate {link link' : Link} (h : link.Twins link') :
    link'.config.tickRate = link.config.tickRate := by
  rw [h.config]

theorem Twins.phy {link link' : Link} (h : link.Twins link') :
    link'.config.phy = link.config.phy := by
  rw [h.config]

def likewise (link' : Link) (outcome : LinkEvent × Link) : LinkEvent × Link :=
  (outcome.1, { link' with state := outcome.2.state })

open LinkM

variable {P Q : Type} [Peer P] [Peer Q] {before before' : List RadioEvent} {link link' : Link}

theorem establish_mirrors (twins : link.Twins link') (c : Connection) :
    Mirrors before before' link'.likewise (link.establish c : LinkM P _)
      (link'.establish c : LinkM Q _) := by
  unfold establish
  rw [twins.phy, twins.tickRate]
  apply Mirrors.bind (.configure _ _ _)
  intro _
  apply Mirrors.bind (.receive _)
  intro _
  apply Mirrors.bind .waitForFrame
  intro frame
  apply Mirrors.bind (.note _ _)
  intro _
  apply Mirrors.bind (.waitUntil _ _)
  intro _
  simp only [sendAck_eq]
  apply Mirrors.bind (.send _ _)
  intro _
  apply Mirrors.bind .readClock
  intro anchor
  apply Mirrors.bind (.note _ _)
  intro _
  exact .pure link'.likewise (_, { link with state := .connected (c.established frame anchor) })

theorem tearDown_mirrors (twins : link.Twins link') :
    Mirrors before before' id (link.tearDown : LinkM P _) (link'.tearDown : LinkM Q _) := by
  unfold tearDown
  rw [twins.phy]
  apply Mirrors.bind .idle
  intro _
  exact .configure _ _ _

theorem supervise_mirrors (twins : link.Twins link') (c : Connection) (event : LinkEvent) :
    Mirrors before before' link'.likewise (link.supervise c event : LinkM P _)
      (link'.supervise c event : LinkM Q _) := by
  unfold supervise
  apply Mirrors.bind .readClock
  intro now
  apply Mirrors.ite
  · exact .pure link'.likewise (event, { link with state := .connected c })
  · apply Mirrors.bind (.note _ _)
    intro _
    apply Mirrors.bind (tearDown_mirrors (P := P) (Q := Q) twins)
    intro _
    exact .pure link'.likewise (_, { link with state := .advertising })

theorem control_mirrors (twins : link.Twins link') (c : Connection) (request : ControlPdu) :
    Mirrors before before' id (link.control c request : LinkM P _)
      (link'.control c request : LinkM Q _) := by
  unfold control
  rw [twins.controls]
  apply Mirrors.bind (.note _ _)
  intro _
  exact .dispatch _ _ _

theorem acceptData_mirrors (twins : link.Twins link') (c : Connection) (channel : UInt8)
    (timestamp : Tick) (pdu : DataPdu) :
    Mirrors before before' link'.likewise (link.acceptData c channel timestamp pdu : LinkM P _)
      (link'.acceptData c channel timestamp pdu : LinkM Q _) := by
  unfold acceptData
  rw [twins.tickRate]
  apply Mirrors.bind (.waitUntil _ _)
  intro _
  simp only [sendAck_eq]
  apply Mirrors.bind (.send _ _)
  intro _
  split
  · exact .pure link'.likewise (_, { link with state := .connected _ })
  · apply Mirrors.bind (control_mirrors (P := P) (Q := Q) twins _ _)
    intro action
    cases action with
    | keepConnection => exact .pure link'.likewise (_, { link with state := .connected _ })
    | terminate =>
      apply Mirrors.bind (.note _ _)
      intro _
      apply Mirrors.bind (tearDown_mirrors (P := P) (Q := Q) twins)
      intro _
      exact .pure link'.likewise (_, { link with state := .advertising })

theorem hear_mirrors (c : Connection) :
    Mirrors before before' id (hear c : LinkM P _) (hear c : LinkM Q _) := by
  unfold hear
  apply Mirrors.bind (.waitUntil _ _)
  intro _
  apply Mirrors.bind (.waitUntil _ _)
  intro _
  apply Mirrors.bind (.receive _)
  intro _
  exact .listen _ _

theorem react_mirrors (twins : link.Twins link') (c : Connection) (heard : Option RxFrame) :
    Mirrors before before' link'.likewise (link.react c heard : LinkM P _)
      (link'.react c heard : LinkM Q _) := by
  cases heard with
  | none =>
    apply Mirrors.bind (.note _ _)
    intro _
    exact supervise_mirrors twins _ _
  | some frame =>
    apply Mirrors.bind (.note _ _)
    intro _
    cases DataPdu.ofBytes frame.bytes with
    | error defect =>
      apply Mirrors.bind (.note _ _)
      intro _
      exact supervise_mirrors twins _ _
    | ok pdu => exact acceptData_mirrors twins _ _ _ _

theorem step_mirrors (twins : link.Twins link') (busy : link.state ≠ .advertising) :
    Mirrors before before' link'.likewise (link.step : LinkM P _) (link'.step : LinkM Q _) := by
  have acts : Mirrors before before' link'.likewise (link.act : LinkM P _)
      (link'.act : LinkM Q _) := by
    unfold act
    rw [twins.state]
    cases state : link.state with
    | advertising => exact absurd state busy
    | connectRequest c => exact establish_mirrors twins c
    | connected c =>
      apply Mirrors.bind (hear_mirrors c)
      intro heard
      exact react_mirrors twins _ _
  unfold step
  rw [twins.state]
  apply Mirrors.bind acts
  intro outcome
  apply Mirrors.ite
  · apply Mirrors.bind (.note _ _)
    intro _
    exact .pure link'.likewise outcome
  · exact .pure link'.likewise outcome

theorem Twins.symm (h : link.Twins link') : link'.Twins link :=
  ⟨h.config.symm, h.controls.symm, h.state.symm⟩

theorem Step.link_eq_of_busy {w w' : World P} {event : LinkEvent} {next : Link}
    (h : link.Step w event next w') (busy : link.state ≠ .advertising) :
    next = { link with state := next.state } := by
  cases state : link.state with
  | advertising => exact absurd state busy
  | connectRequest c =>
    obtain ⟨_, _, _, _, same⟩ := h.setsUp state
    rw [same]
  | connected c =>
    obtain ⟨_, _, _, _, _, -, reacts, -⟩ := h.of_connected state
    obtain same | same := reacts.link_eq <;> rw [same]

theorem Twins.next {w w' : World P} {event : LinkEvent} {next : Link} (h : link.Twins link')
    (step : link.Step w event next w') : next.Twins { link' with state := next.state } := by
  obtain ⟨config, -, controls⟩ := step.setup_eq
  exact ⟨h.config.trans config.symm, h.controls.trans controls.symm, rfl⟩

theorem Step.mirrored {w u : World P} {w' : World Q} {event : LinkEvent} {next : Link}
    (h : link.Step w event next u) (twins : link.Twins link') (busy : link.state ≠ .advertising)
    (mirrors : w.radio.Mirrors before before' w'.radio) :
    ∃ u', link'.Step w' event { link' with state := next.state } u' ∧
      u.radio.Mirrors before before' u'.radio := by
  obtain ⟨polls, h⟩ := h
  have worlds : World.Mirrors before before' { w with polls } { w' with polls } :=
    ⟨mirrors, Nat.le_refl polls⟩
  obtain ⟨u', made, mirrors'⟩ := step_mirrors twins busy worlds h
  exact ⟨u', ⟨polls, made⟩, mirrors'.radio⟩

theorem Step.matched {w u : World P} {w' u' : World Q} {event event' : LinkEvent} {next next' : Link}
    (h : link.Step w event next u) (h' : link'.Step w' event' next' u')
    (twins : link.Twins link') (busy : link.state ≠ .advertising)
    (mirrors : w.radio.Mirrors before before' w'.radio) :
    event' = event ∧ next' = { link' with state := next.state } ∧
      u.radio.Mirrors before before' u'.radio := by
  have busy' : link'.state ≠ .advertising := by rwa [twins.state]
  have same := h'.link_eq_of_busy busy'
  obtain ⟨polls, h⟩ := h
  obtain ⟨polls', h'⟩ := h'
  -- The step with fewer polls is the one that is followed.
  obtain fewer | fewer := Nat.le_total polls polls'
  · have worlds : World.Mirrors before before' { w with polls } { w' with polls := polls' } :=
      ⟨mirrors, fewer⟩
    obtain ⟨v, made, mirrors'⟩ := step_mirrors twins busy worlds h
    rw [h'] at made
    cases made
    exact ⟨rfl, rfl, mirrors'.radio⟩
  · have worlds : World.Mirrors before' before { w' with polls := polls' } { w with polls } :=
      ⟨mirrors.symm, fewer⟩
    obtain ⟨v, made, mirrors'⟩ := step_mirrors twins.symm busy' worlds h'
    rw [h] at made
    cases made
    exact ⟨rfl, same, mirrors'.radio.symm⟩

end Link

structure Turn.Agrees (turn turn' : Turn) : Prop where
  wait : turn'.wait = turn.wait
  event : turn'.event = turn.event
  before : turn'.stage.before.state = turn.stage.before.state
  after : turn'.stage.after.state = turn.stage.after.state

namespace Link

variable {P Q : Type} [Peer P] [Peer Q] {before before' : List RadioEvent} {link link' : Link}

theorem mirrors_later {w : World P} {w' : World Q}
    (mirrors : w.radio.Mirrors before before' w'.radio) (wait : Nat) :
    (w.later wait).radio.Mirrors before before' (w'.later wait).radio :=
  ⟨mirrors.clock.later wait, mirrors.peer, mirrors.journal, mirrors.accessAddress,
    mirrors.listening⟩

theorem Walk.mirrored {w v : World P} {w' : World Q} {turns : List Turn} {last : Link}
    (walk : Walk link w turns last v) (busy : ∀ turn ∈ turns, turn.stage.before.state ≠ .advertising)
    (twins : link.Twins link') (mirrors : w.radio.Mirrors before before' w'.radio) :
    ∃ turns' last' v', Walk link' w' turns' last' v' ∧
      turns'.map Turn.wait = turns.map Turn.wait := by
  induction walk generalizing link' w' with
  | nil => exact ⟨[], link', w', .nil link' w', rfl⟩
  | @cons link next last w u v event wait turns step rest ih =>
    obtain ⟨now, later⟩ := List.forall_mem_cons.mp busy
    obtain ⟨u', step', mirrors'⟩ := step.mirrored twins now (mirrors_later mirrors wait)
    obtain ⟨turns', last', v', walk', waits⟩ := ih later (twins.next step) mirrors'
    exact ⟨_, last', v', .cons step' walk', by rw [List.map_cons, waits]; rfl⟩

theorem Walk.matched {w v : World P} {w' v' : World Q} {turns turns' : List Turn}
    {last last' : Link} (walk : Walk link w turns last v) (walk' : Walk link' w' turns' last' v')
    (waits : turns'.map Turn.wait = turns.map Turn.wait)
    (busy : ∀ turn ∈ turns, turn.stage.before.state ≠ .advertising) (twins : link.Twins link')
    (mirrors : w.radio.Mirrors before before' w'.radio) :
    List.Forall₂ Turn.Agrees turns turns' ∧ last'.state = last.state ∧
      v.radio.Mirrors before before' v'.radio := by
  induction walk generalizing link' w' turns' with
  | nil =>
    obtain rfl := List.map_eq_nil_iff.mp waits
    cases walk'
    exact ⟨.nil, twins.state, mirrors⟩
  | @cons link next last w u v event wait turns step rest ih =>
    obtain ⟨now, later⟩ := List.forall_mem_cons.mp busy
    cases walk' with
    | nil => cases waits
    | @cons _ next' _ _ u' _ event' wait' turns' step' rest' =>
      rw [List.map_cons, List.map_cons, List.cons.injEq] at waits
      obtain ⟨same, waits'⟩ := waits
      obtain rfl : wait' = wait := same
      obtain ⟨rfl, rfl, mirrors'⟩ := step.matched step' twins now (mirrors_later mirrors wait')
      obtain ⟨agree, state, mirrors'⟩ := ih rest' waits' later (twins.next step) mirrors'
      exact ⟨.cons ⟨rfl, rfl, twins.state, rfl⟩ agree, state, mirrors'⟩

end Link

end BlePeripheral

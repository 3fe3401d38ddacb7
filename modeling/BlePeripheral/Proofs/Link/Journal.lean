import BlePeripheral.Proofs.Link.Run

/-! What the steps of a connection add to the journal of the radio, and runs in which the user
of the link has a turn before each step. -/

namespace BlePeripheral

namespace Link

inductive HearingLog (channel : UInt8) : Option RxFrame → List RadioEvent → Prop
  | silence (opened closed : Nat) :
      HearingLog channel none [.listened channel opened, .idled closed]
  | frame (opened : Nat) (frame : RxFrame) :
      HearingLog channel (some frame) [.listened channel opened, .delivered frame]

/-- What the radio has done in reaction to that, and the link afterwards: it has kept the
connection or given it up, with or without an answer. -/
inductive ReactionLog (link : Link) (kept : Connection) : Link → List RadioEvent → Prop
  | silent : ReactionLog link kept { link with state := .connected kept } []
  | answered (pdu : Bytes) (sent : Nat) :
      ReactionLog link kept { link with state := .connected kept }
        [.transmitted kept.channel pdu sent]
  | lost (idled : Nat) :
      ReactionLog link kept { link with state := .advertising }
        [.idled idled, .configured advAccessAddress advCrcInit link.config.phy]
  | terminated (pdu : Bytes) (sent idled : Nat) :
      ReactionLog link kept { link with state := .advertising }
        [.transmitted kept.channel pdu sent, .idled idled,
          .configured advAccessAddress advCrcInit link.config.phy]

variable {P : Type} [Peer P]

theorem Hears.log_eq {c : Connection} {radio radio' : Radio P} {heard : Option RxFrame} {i j : Nat}
    (h : Hears c radio heard radio' i j) :
    ∃ log, radio'.journal.toList = radio.journal.toList ++ log ∧
      HearingLog c.nextEvent.channel heard log := by
  have listening : (armed c radio (i + 1) (j + 1)).journal.toList = radio.journal.toList ++
      [.listened c.nextEvent.channel (radio.afterReads (i + 1 + (j + 1))).clock.time] := by
    simp [armed]
  cases heard with
  | none =>
    obtain ⟨closed, journal⟩ := h.window.journal_none
    rw [listening, List.append_assoc] at journal
    exact ⟨_, journal, .silence _ closed⟩
  | some frame =>
    have journal := h.window.journal_some
    rw [listening, List.append_assoc] at journal
    exact ⟨_, journal, .frame _ frame⟩

theorem Reacts.log_eq {link link' : Link} {c : Connection} {radio radio' : Radio P}
    {heard : Option RxFrame} {event : LinkEvent} {new : List ControlPdu}
    (h : link.Reacts c radio heard event link' radio' new) :
    ∃ log, radio'.journal.toList = radio.journal.toList ++ log ∧
      link.ReactionLog (c.after heard) link' log := by
  cases h with
  | stands => exact ⟨[], by simp, .silent⟩
  | lost =>
    exact ⟨_, by simp, .lost (radio.afterReads 1).clock.time⟩
  | @accepted frame pdu n =>
    refine ⟨_, Radio.transmit_journal _ _ _, ?_⟩
    rw [← Connection.after_channel c (some frame)]
    exact .answered _ _
  | @terminated frame pdu n =>
    refine ⟨_, ?_, .terminated (c.ack.afterReceive pdu.header).response
      (radio.afterReads (n + 1)).clock.time (radio.afterReads (n + 1)).clock.time⟩
    simp

theorem Step.log_of_connected {link link' : Link} {w w' : World P} {event : LinkEvent}
    {c : Connection} (h : link.Step w event link' w') (connected : link.state = .connected c) :
    ∃ heard hearing reaction,
      w'.radio.journal.toList = w.radio.journal.toList ++ (hearing ++ reaction) ∧
      HearingLog c.nextEvent.channel heard hearing ∧
      link.ReactionLog (c.nextEvent.after heard) link' reaction := by
  obtain ⟨heard, radio, new, i, j, hears, reacts, -⟩ := h.of_connected connected
  obtain ⟨hearing, listened, logged⟩ := hears.log_eq
  obtain ⟨reaction, reacted, logged'⟩ := reacts.log_eq
  exact ⟨heard, hearing, reaction, by rw [reacted, listened, List.append_assoc], logged, logged'⟩

theorem Step.log_of_connectRequest {link link' : Link} {w w' : World P} {event : LinkEvent}
    {c : Connection} (h : link.Step w event link' w') (waiting : link.state = .connectRequest c) :
    ∃ frame anchor pdu opened sent,
      w'.radio.journal.toList = w.radio.journal.toList ++
        [.configured c.context.accessAddress c.context.crcInit link.config.phy,
          .listened c.channel opened, .delivered frame, .transmitted c.channel pdu sent] ∧
      link'.state = .connected (c.established frame anchor) := by
  obtain ⟨frame, radio, n, m, heard, answered, -, -, state⟩ := h.of_connectRequest waiting
  refine ⟨frame, _, (c.ack.afterFrame frame.bytes).response, w.radio.clock.time,
    (radio.afterReads (m + 1)).clock.time, ?_, state⟩
  rw [answered, heard]
  simp

/-- Before a step the user of a link may set the clock, change the handlers and exchange the
peer. -/
structure Pause (link : Link) (w : World P) (link' : Link) (w' : World P) : Prop where
  link_eq : link' = { link with controls := link'.controls }
  radio_eq : w'.radio = { w.radio with clock := w'.radio.clock, peer := w'.radio.peer }

/-- A run with a pause before each step and at its end. -/
inductive Course : Link → World P → List Stage → Link → World P → Prop
  | done {link link' : Link} {w w' : World P} (pause : link.Pause w link' w') :
      Course link w [] link' w'
  | step {link link₁ link₂ link' : Link} {w w₁ w₂ w' : World P} {event : LinkEvent}
      {stages : List Stage} (pause : link.Pause w link₁ w₁) (step : link₁.Step w₁ event link₂ w₂)
      (rest : Course link₂ w₂ stages link' w') :
      Course link w (⟨link₁, event, link₂⟩ :: stages) link' w'

theorem Course.config_eq {link link' : Link} {w w' : World P} {stages : List Stage}
    (course : Course link w stages link' w') : link'.config = link.config := by
  induction course with
  | done pause => rw [pause.link_eq]
  | step pause step rest ih => rw [ih, step.config_eq, pause.link_eq]

theorem Course.eq_nil_of_ended {link link' : Link} {w w' : World P} {stages : List Stage}
    (course : Course link w stages link' w')
    (connected : ∀ stage ∈ stages, stage.before.state.isConnected = true)
    (ended : link.state.isConnected = false) :
    stages = [] ∧ link'.state = link.state ∧ w'.radio.journal = w.radio.journal := by
  cases course with
  | done pause =>
    rw [pause.link_eq, pause.radio_eq]
    exact ⟨rfl, rfl, rfl⟩
  | step pause step rest =>
    have still := connected _ List.mem_cons_self
    dsimp only at still
    rw [pause.link_eq, ended] at still
    cases still

theorem Course.state_eq_of_ended {link link' : Link} {w w' : World P} {stages : List Stage}
    (course : Course link w stages link' w')
    (connected : ∀ stage ∈ stages, stage.before.state.isConnected = true)
    (ended : link.state.isConnected = false) : link'.state = link.state :=
  (course.eq_nil_of_ended connected ended).2.1

omit [Peer P] in
theorem Pause.refl (link : Link) (w : World P) : link.Pause w link w := ⟨rfl, rfl⟩

theorem Run.course {link link' : Link} {w w' : World P} {stages : List Stage}
    (run : Run link w stages link' w') : Course link w stages link' w' := by
  induction run with
  | nil link w => exact .done (.refl link w)
  | cons step rest ih => exact .step (.refl _ _) step ih

end Link

end BlePeripheral

import BlePeripheral.Proofs.Link.LifeCycle
import BlePeripheral.Proofs.Pdu.Frames

/-! The connection events of a connection, window after window. What a row of them has done to the
journal and to the connection is known from what was heard in their windows, so arguments about
connections need no induction over steps of their own. -/

namespace BlePeripheral

/-- The channels that were listened on, each with the frame that came in there. -/
def listenings : List RadioEvent → List (UInt8 × Option RxFrame)
  | [] => []
  | .listened channel _ :: .delivered frame :: log => (channel, some frame) :: listenings log
  | .listened channel _ :: log => (channel, none) :: listenings log
  | _ :: log => listenings log

def receivedFrames (windows : List (UInt8 × Option RxFrame)) : List (UInt8 × RxFrame) :=
  windows.filterMap fun (channel, heard) => heard.map (channel, ·)

def dataFrames (windows : List (UInt8 × Option RxFrame)) : List (UInt8 × RxFrame) :=
  (receivedFrames windows).filter fun (_, frame) => (DataPdu.ofBytes frame.bytes).isOk

theorem dataFrames_cons (window : UInt8 × Option RxFrame)
    (windows : List (UInt8 × Option RxFrame)) :
    dataFrames (window :: windows) = dataFrames [window] ++ dataFrames windows := by
  rw [dataFrames, receivedFrames, ← List.singleton_append, List.filterMap_append,
    List.filter_append]
  rfl

theorem dataFrames_of_vain {heard : Option RxFrame} (vain : heardPdu? heard = none)
    (channel : UInt8) : dataFrames [(channel, heard)] = [] := by
  obtain rfl | ⟨frame, defect, rfl, read⟩ := heardPdu?_eq_none.mp vain
  · rfl
  · simp [dataFrames, receivedFrames, read, Except.isOk, Except.toBool]

theorem dataFrames_of_ofBytes {frame : RxFrame} {pdu : DataPdu}
    (wellFormed : DataPdu.ofBytes frame.bytes = .ok pdu) (channel : UInt8) :
    dataFrames [(channel, some frame)] = [(channel, frame)] := by
  simp [dataFrames, receivedFrames, wellFormed, Except.isOk, Except.toBool]

namespace AckState

theorem afterFrame_of_ofBytes (ack : AckState) {bytes : Bytes} {pdu : DataPdu}
    (wellFormed : DataPdu.ofBytes bytes = .ok pdu) :
    ack.afterFrame bytes = ack.afterReceive pdu.header := by
  rw [afterFrame, DataPdu.ofFrame?_of_ofBytes wellFormed]

/-- The numbers after frames whose headers all count; one too short for a header does not. -/
def afterFrames (ack : AckState) (frames : List (UInt8 × RxFrame)) : AckState :=
  (frames.filterMap fun (_, frame) => DataHeader.ofFrame? frame.bytes).foldl afterReceive ack

@[simp] theorem afterFrames_nil (ack : AckState) : ack.afterFrames [] = ack := rfl

theorem afterFrames_cons (ack : AckState) (entry : UInt8 × RxFrame)
    (frames : List (UInt8 × RxFrame)) :
    ack.afterFrames (entry :: frames) = (ack.afterFrame entry.2.bytes).afterFrames frames := by
  unfold afterFrames afterFrame
  cases read : DataHeader.ofFrame? entry.2.bytes with
  | none => simp only [List.filterMap_cons, read]
  | some header => simp only [List.filterMap_cons, read, List.foldl_cons]

/-- What is sent if each of the frames is acknowledged when it comes in. -/
def acknowledgments (ack : AckState) : List (UInt8 × RxFrame) → List (UInt8 × Bytes)
  | [] => []
  | (channel, frame) :: frames =>
    (channel, (ack.afterFrame frame.bytes).response) ::
      (ack.afterFrame frame.bytes).acknowledgments frames

theorem acknowledgments_append (ack : AckState) (frames frames' : List (UInt8 × RxFrame)) :
    ack.acknowledgments (frames ++ frames') =
      ack.acknowledgments frames ++ (ack.afterFrames frames).acknowledgments frames' := by
  induction frames generalizing ack with
  | nil => rfl
  | cons entry frames ih =>
    simp only [List.cons_append, acknowledgments, afterFrames_cons, ih]

end AckState

namespace Connection

theorem after_ack (c : Connection) (heard : Option RxFrame) (channel : UInt8) :
    (c.after heard).ack = c.ack.afterFrames (dataFrames [(channel, heard)]) := by
  cases heardOne : heardPdu? heard with
  | none =>
    rw [dataFrames_of_vain heardOne, (after_of_vain heardOne).1, AckState.afterFrames_nil]
  | some pdu =>
    obtain ⟨frame, rfl, wellFormed⟩ := heardPdu?_eq_some.mp heardOne
    rw [dataFrames_of_ofBytes wellFormed, AckState.afterFrames_cons, AckState.afterFrames_nil,
      AckState.afterFrame_of_ofBytes _ wellFormed, c.after_of_ofBytes wellFormed]

def afterEvents (c : Connection) (windows : List (UInt8 × Option RxFrame)) : Connection :=
  windows.foldl (fun c window => c.nextEvent.after window.2) c

/-- What a row of connection events has added to the journal. -/
structure WindowsLog (c : Connection) (log : List RadioEvent) : Prop where
  frames : log.filterMap RadioEvent.frame? = (listenings log).filterMap Prod.snd
  sent : log.filterMap RadioEvent.sent? = c.ack.acknowledgments (dataFrames (listenings log))

structure WindowLog (c : Connection) (heard : Option RxFrame) (log : List RadioEvent) : Prop where
  listened (later : List RadioEvent) :
    listenings (log ++ later) = (c.nextEvent.channel, heard) :: listenings later
  frames : log.filterMap RadioEvent.frame? = heard.toList
  sent : log.filterMap RadioEvent.sent? =
    c.ack.acknowledgments (dataFrames [(c.nextEvent.channel, heard)])

theorem WindowLog.append {c : Connection} {heard : Option RxFrame} {log log' : List RadioEvent}
    (h : c.WindowLog heard log) (h' : (c.nextEvent.after heard).WindowsLog log') :
    c.WindowsLog (log ++ log') := by
  constructor
  · rw [List.filterMap_append, h.frames, h'.frames, h.listened]
    cases heard <;> rfl
  · have numbers : (c.nextEvent.after heard).ack =
        c.ack.afterFrames (dataFrames [(c.nextEvent.channel, heard)]) :=
      c.nextEvent.after_ack heard _
    rw [List.filterMap_append, h.sent, h'.sent, h.listened, dataFrames_cons _ (listenings log'),
      AckState.acknowledgments_append, numbers]

theorem windowsLog_nil (c : Connection) : c.WindowsLog [] := ⟨rfl, rfl⟩

end Connection

namespace Link

variable {P : Type} [Peer P]

theorem Reacts.sent_eq {link link' : Link} {c : Connection} {radio radio' : Radio P}
    {heard : Option RxFrame} {event : LinkEvent} {new : List ControlPdu} {log : List RadioEvent}
    (h : link.Reacts c radio heard event link' radio' new)
    (journal : radio'.journal.toList = radio.journal.toList ++ log) :
    log.filterMap RadioEvent.sent? = c.ack.acknowledgments (dataFrames [(c.channel, heard)]) := by
  cases h with
  | stands vain =>
    rw [dataFrames_of_vain vain]
    obtain rfl : log = [] := by simpa using journal
    rfl
  | lost vain =>
    rw [dataFrames_of_vain vain]
    obtain rfl : log = [.idled (radio.afterReads 1).clock.time,
        .configured advAccessAddress advCrcInit link.config.phy] := by
      simpa using journal.symm
    rfl
  | @accepted frame pdu n wellFormed =>
    rw [dataFrames_of_ofBytes wellFormed, AckState.acknowledgments,
      AckState.afterFrame_of_ofBytes _ wellFormed]
    obtain rfl : log = [.transmitted c.channel (c.ack.afterReceive pdu.header).response
        (radio.afterReads (n + 1)).clock.time] := by
      simpa using journal.symm
    rfl
  | @terminated frame pdu n request wellFormed =>
    rw [dataFrames_of_ofBytes wellFormed, AckState.acknowledgments,
      AckState.afterFrame_of_ofBytes _ wellFormed]
    obtain rfl : log = [.transmitted c.channel (c.ack.afterReceive pdu.header).response
        (radio.afterReads (n + 1)).clock.time, .idled (radio.afterReads (n + 1)).clock.time,
        .configured advAccessAddress advCrcInit link.config.phy] := by
      simpa using journal.symm
    rfl

theorem HearingLog.listenings_append {channel : UInt8} {heard : Option RxFrame}
    {log : List RadioEvent} (h : HearingLog channel heard log) (later : List RadioEvent) :
    listenings (log ++ later) = (channel, heard) :: listenings later := by
  cases h <;> simp [listenings]

theorem ReactionLog.listenings_append {link link' : Link} {kept : Connection}
    {log : List RadioEvent} (h : link.ReactionLog kept link' log) (later : List RadioEvent) :
    listenings (log ++ later) = listenings later := by
  cases h <;> simp [listenings]

theorem HearingLog.frames_eq {channel : UInt8} {heard : Option RxFrame} {log : List RadioEvent}
    (h : HearingLog channel heard log) : log.filterMap RadioEvent.frame? = heard.toList := by
  cases h <;> rfl

theorem HearingLog.sent_eq {channel : UInt8} {heard : Option RxFrame} {log : List RadioEvent}
    (h : HearingLog channel heard log) : log.filterMap RadioEvent.sent? = [] := by
  cases h <;> rfl

theorem ReactionLog.frames_eq {link link' : Link} {kept : Connection} {log : List RadioEvent}
    (h : link.ReactionLog kept link' log) : log.filterMap RadioEvent.frame? = [] := by
  cases h <;> rfl

theorem Step.window {link link' : Link} {w w' : World P} {event : LinkEvent} {c : Connection}
    (h : link.Step w event link' w') (connected : link.state = .connected c) :
    ∃ heard log, w'.radio.journal.toList = w.radio.journal.toList ++ log ∧ c.WindowLog heard log ∧
      (link'.state = .connected (c.nextEvent.after heard) ∨ link'.state = .advertising) := by
  obtain ⟨heard, radio, new, i, j, hears, reacts, -⟩ := h.of_connected connected
  obtain ⟨hearing, listened, logged⟩ := hears.log_eq
  obtain ⟨reaction, reacted, logged'⟩ := reacts.log_eq
  refine ⟨heard, hearing ++ reaction, by rw [reacted, listened, List.append_assoc],
    ⟨?_, ?_, ?_⟩, ?_⟩
  · intro later
    rw [List.append_assoc, logged.listenings_append, logged'.listenings_append]
  · rw [List.filterMap_append, logged.frames_eq, logged'.frames_eq, List.append_nil]
  · rw [List.filterMap_append, logged.sent_eq, List.nil_append]
    exact reacts.sent_eq reacted
  · obtain rfl | rfl := reacts.link_eq
    · exact .inl rfl
    · exact .inr rfl

theorem Course.windows {link link' : Link} {w w' : World P} {stages : List Stage} {c : Connection}
    (course : Course link w stages link' w') (start : link.state = .connected c)
    (connected : ∀ stage ∈ stages, stage.before.state.isConnected = true) :
    ∃ log, w'.radio.journal.toList = w.radio.journal.toList ++ log ∧ c.WindowsLog log ∧
      (listenings log).length = stages.length ∧
      (link'.state = .connected (c.afterEvents (listenings log)) ∨ link'.state = .advertising) := by
  induction course generalizing c with
  | done pause =>
    refine ⟨[], by rw [pause.radio_eq, List.append_nil], c.windowsLog_nil, rfl, .inl ?_⟩
    rw [pause.link_eq]
    exact start
  | @step link link₁ link₂ link' w w₁ w₂ w' event stages pause step rest ih =>
    have state : link₁.state = .connected c := by rw [pause.link_eq, start]
    have later := (List.forall_mem_cons.mp connected).2
    obtain ⟨heard, log, journal, logged, stays | ended⟩ := step.window state
    · obtain ⟨log', journal', logged', length, outcome⟩ := ih stays later
      refine ⟨log ++ log', ?_, logged.append logged', ?_, ?_⟩
      · rw [journal', journal, pause.radio_eq, List.append_assoc]
      · rw [logged.listened, List.length_cons, List.length_cons, length]
      · rw [logged.listened]
        exact outcome
    · obtain ⟨rfl, ended', journal'⟩ := rest.eq_nil_of_ended later (by rw [ended]; rfl)
      have alone := logged.append (Connection.windowsLog_nil _)
      rw [List.append_nil] at alone
      refine ⟨log, by rw [journal', journal, pause.radio_eq], alone, ?_, ?_⟩
      · have one := logged.listened []
        rw [List.append_nil] at one
        rw [one]
        rfl
      · exact .inr (ended'.trans ended)

theorem Step.window_of_connectRequest {link link' : Link} {w w' : World P} {event : LinkEvent}
    {c : Connection} (h : link.Step w event link' w') (waiting : link.state = .connectRequest c) :
    ∃ first anchor log, w'.radio.journal.toList = w.radio.journal.toList ++ log ∧
      (∀ later, listenings (log ++ later) = (c.channel, some first) :: listenings later) ∧
      log.filterMap RadioEvent.sent? = c.ack.acknowledgments [(c.channel, first)] ∧
      link'.state = .connected (c.established first anchor) := by
  obtain ⟨first, radio, n, m, heard, answered, -, -, state⟩ := h.of_connectRequest waiting
  refine ⟨first, _, [.configured c.context.accessAddress c.context.crcInit link.config.phy,
    .listened c.channel w.radio.clock.time, .delivered first, .transmitted c.channel
      (c.ack.afterFrame first.bytes).response (radio.afterReads (m + 1)).clock.time],
    ?_, ?_, ?_, state⟩
  · rw [answered, heard]
    simp
  · intro later
    simp [listenings]
  · rfl

end Link

end BlePeripheral

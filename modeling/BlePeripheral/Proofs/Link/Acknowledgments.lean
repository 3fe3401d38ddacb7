import BlePeripheral.Proofs.Link.Windows

/-! What a link transmits while it has a connection: an empty PDU for each frame it acknowledges,
on the channel the frame came in on, with the numbers that the frames so far have led to. -/

namespace BlePeripheral

namespace AckState

def emptyPdu (ack : AckState) : Bytes :=
  [(0x03 : UInt8) ||| ack.nextExpected.toUInt8 <<< 2 ||| ack.transmitSeq.toUInt8 <<< 3, 0x00]

theorem response_eq (ack : AckState) : ack.response = ack.emptyPdu := by
  rcases ack with ⟨_ | _, _ | _⟩ <;> rfl

theorem getElem?_acknowledgments (ack : AckState) (frames : List (UInt8 × RxFrame)) (j : Nat) :
    (ack.acknowledgments frames)[j]? = frames[j]?.map fun entry =>
      (entry.1, (ack.afterFrames (frames.take (j + 1))).response) := by
  induction frames generalizing ack j with
  | nil => rfl
  | cons entry frames ih =>
    rw [acknowledgments]
    cases j with
    | zero => simp [afterFrames_cons]
    | succ j =>
      rw [List.getElem?_cons_succ, List.getElem?_cons_succ, ih, List.take_succ_cons,
        afterFrames_cons]

end AckState

namespace Link

variable {P : Type} [Peer P]

/-- From its request to its end a connection is answered by acknowledgments and nothing else: one
for the first frame, whatever it holds, and one for each data PDU after it, on the channel of the
frame. The numbers in the `j`-th come from the headers of the first `j` of these frames. -/
theorem transmissions_are_acknowledgments {link link' : Link} {w w' : World P} {setUp : Stage}
    {stages : List Stage} {c : Connection} (reached : Reachable link w)
    (waiting : link.state = .connectRequest c) (course : Course link w (setUp :: stages) link' w')
    (connected : ∀ stage ∈ stages, stage.before.state.isConnected = true) :
    ∃ first windows answered log, w'.radio.journal.toList = w.radio.journal.toList ++ log ∧
      listenings log = (c.channel, some first) :: windows ∧ windows.length = stages.length ∧
      answered = (c.channel, first) :: dataFrames windows ∧
      ∀ j : Nat, (log.filterMap RadioEvent.sent?)[j]? = answered[j]?.map fun entry =>
        (entry.1, (({} : AckState).afterFrames (answered.take (j + 1))).emptyPdu) := by
  have initial : c.ack = {} := by
    obtain ⟨context, rfl⟩ := reached.connectRequest waiting
    rfl
  cases course with
  | @step _ link₁ link₂ _ _ w₁ w₂ _ event _ pause establishes rest =>
    have state : link₁.state = .connectRequest c := by rw [pause.link_eq, waiting]
    obtain ⟨first, anchor, opening, journal, listened, sent, established⟩ :=
      establishes.window_of_connectRequest state
    obtain ⟨log, journal', logged, length, -⟩ := rest.windows established connected
    refine ⟨first, listenings log, _, opening ++ log, ?_, listened log, length, rfl, ?_⟩
    · rw [journal', journal, pause.radio_eq, List.append_assoc]
    · intro j
      have all : (opening ++ log).filterMap RadioEvent.sent? =
          ({} : AckState).acknowledgments ((c.channel, first) :: dataFrames (listenings log)) := by
        rw [List.filterMap_append, sent, logged.sent, ← initial]
        rfl
      rw [all, AckState.getElem?_acknowledgments]
      simp only [AckState.response_eq]

/-- The first frame is cut short, and its header counts all the same; a PDU, a malformed frame, a
missed window and a request to terminate come after it. -/
theorem transmissions_are_acknowledgments_of_termination :
    ∃ (link link' : Link) (w w' : World ScriptedPeer) (setUp : Stage) (stages : List Stage)
      (c : Connection), Reachable link w ∧ link.state = .connectRequest c ∧
      Course link w (setUp :: stages) link' w' ∧
      (∀ stage ∈ stages, stage.before.state.isConnected = true) ∧ link'.state = .advertising ∧
      ∃ first windows answered log, w'.radio.journal.toList = w.radio.journal.toList ++ log ∧
        listenings log = (c.channel, some first) :: windows ∧ windows.length = 4 ∧
        answered = (c.channel, first) :: dataFrames windows ∧
        ∀ j : Nat, (log.filterMap RadioEvent.sent?)[j]? = answered[j]?.map fun entry =>
          (entry.1, (({} : AckState).afterFrames (answered.take (j + 1))).emptyPdu) := by
  have passes : testConnecting (({} : ControlTable).register .terminateInd .terminateOnRequest)
      [some ⟨100, [0x01, 9]⟩, some ⟨100, [0x0d, 0]⟩, some ⟨100, [0x01]⟩, none,
        some ⟨100, [0x03, 2, 0x02, 0x13]⟩]
      (fun link w => LinkM.test link.step { w with polls := 10 } fun outcome w =>
        testRun 500 (fun link' _ => link'.state = .advertising) 4 outcome.2 w) = true := by
    decide +kernel
  obtain ⟨link, w, c, reached, waiting, passes⟩ := Reachable.of_test passes
  obtain ⟨event, link₁, w₁, established, passes⟩ := Step.of_test passes
  obtain ⟨stages, link', w', run, length, connected, ended⟩ := Run.of_test passes
  have course : Course link w (⟨link, event, link₁⟩ :: stages) link' w' :=
    .step (.refl link w) established run.course
  obtain ⟨first, windows, answered, log, journal, listened, counted, acknowledged⟩ :=
    transmissions_are_acknowledgments reached waiting course connected
  exact ⟨link, link', w, w', _, stages, c, reached, waiting, course, connected,
    of_decide_eq_true ended, first, windows, answered, log, journal, listened,
    counted.trans length, acknowledged⟩

end Link

end BlePeripheral

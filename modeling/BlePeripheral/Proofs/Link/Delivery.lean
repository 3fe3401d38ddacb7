import BlePeripheral.Proofs.Link.Run

/-! Control PDUs are handed on exactly once. The link hands on what it accepts as new while it
is connected; the frame that establishes a connection is answered whatever it holds, and takes
part in the numbering only. -/

namespace BlePeripheral

namespace DataPdu

/-- The control PDU in a data PDU: there is one if the data PDU is marked for it and not empty. -/
def controls (pdu : DataPdu) : List ControlPdu :=
  match pdu.payload with
  | [] => []
  | code :: params => if pdu.header.llid = .control then [⟨.ofCode code, params⟩] else []

/-- The control PDUs in data PDUs that come in one after the other, without repetitions: a data PDU
repeats the one before it if it bears the same number, the first one if it is not as expected. -/
def newControls (expected : Bool) : List DataPdu → List ControlPdu
  | [] => []
  | pdu :: pdus =>
    (if pdu.header.sn = expected then pdu.controls else []) ++ newControls (!pdu.header.sn) pdus

end DataPdu

open DataPdu (newControls)

namespace AckState

def afterPdus (ack : AckState) (pdus : List DataPdu) : AckState :=
  pdus.foldl (fun ack pdu => ack.afterReceive pdu.header) ack

/-- Of data PDUs that have come in, each control PDU that is new has been handed on in its place. -/
structure HasHandedOn (ack : AckState) (pdus : List DataPdu) (handed : List ControlPdu) : Prop where
  inOrder : handed = newControls ack.nextExpected pdus
  /-- New is what moves the number expected next, and so is acknowledged by the response. -/
  asNew : ∀ before pdu after, pdus = before ++ pdu :: after →
    handed = newControls ack.nextExpected before ++
      (if ((ack.afterPdus before).afterReceive pdu.header).nextExpected ≠
        (ack.afterPdus before).nextExpected then pdu.controls else []) ++
      newControls (ack.afterPdus (before ++ [pdu])).nextExpected after
  onceOnly : ∀ before pdu again after, again.header.sn = pdu.header.sn →
    pdus = before ++ pdu :: again :: after →
    handed = newControls ack.nextExpected (before ++ pdu :: after)

theorem nextExpected_afterReceive (ack : AckState) (header : DataHeader) :
    (ack.afterReceive header).nextExpected = !header.sn := by
  unfold afterReceive isNew
  cases header.sn <;> cases ack.nextExpected <;> rfl

theorem nextExpected_ne_iff (ack : AckState) (header : DataHeader) :
    (ack.afterReceive header).nextExpected ≠ ack.nextExpected ↔ header.sn = ack.nextExpected := by
  rw [nextExpected_afterReceive]
  cases header.sn <;> cases ack.nextExpected <;> decide

/-- What the link asks for before it hands a control PDU on is what makes it a new one. -/
theorem toList_newControl? (ack : AckState) (pdu : DataPdu) :
    (ack.newControl? pdu).toList = newControls ack.nextExpected [pdu] := by
  unfold newControl? isNew newControls DataPdu.controls
  by_cases expected : pdu.header.sn = ack.nextExpected <;>
    by_cases control : pdu.header.llid = .control <;>
    cases pdu.payload <;> simp [expected, control, ControlPdu.ofPayload?, newControls]

theorem newControls_append (ack : AckState) (pdus pdus' : List DataPdu) :
    newControls ack.nextExpected (pdus ++ pdus') =
      newControls ack.nextExpected pdus ++
        newControls (ack.afterPdus pdus).nextExpected pdus' := by
  induction pdus generalizing ack with
  | nil => rfl
  | cons pdu pdus ih =>
    have later := ih (ack.afterReceive pdu.header)
    rw [nextExpected_afterReceive] at later
    simp only [List.cons_append, newControls, later, List.append_assoc]
    rfl

theorem newControls_retransmitted {header : DataHeader} {again : DataPdu}
    (same : again.header.sn = header.sn) (pdus : List DataPdu) :
    newControls (!header.sn) (again :: pdus) = newControls (!header.sn) pdus := by
  rw [newControls, same, if_neg (by cases header.sn <;> decide)]
  rfl

theorem hasHandedOn_newControls (ack : AckState) (pdus : List DataPdu) :
    ack.HasHandedOn pdus (newControls ack.nextExpected pdus) where
  inOrder := rfl
  asNew := by
    rintro before pdu after rfl
    have last : (ack.afterPdus (before ++ [pdu])).nextExpected = !pdu.header.sn := by
      rw [afterPdus, List.foldl_append]
      exact nextExpected_afterReceive _ pdu.header
    rw [newControls_append, newControls, last, List.append_assoc]
    simp only [nextExpected_ne_iff]
  onceOnly := by
    rintro before pdu again after same rfl
    rw [newControls_append, newControls_append, newControls, newControls_retransmitted same,
      newControls]

end AckState

namespace Link

variable {P : Type} [Peer P]

theorem Reacts.new_eq {link link' : Link} {c : Connection} {radio radio' : Radio P}
    {heard : Option RxFrame} {event : LinkEvent} {new : List ControlPdu}
    (h : link.Reacts c radio heard event link' radio' new) :
    new = newControls c.ack.nextExpected (heardPdu? heard).toList := by
  cases h with
  | stands vain => simp [vain, newControls]
  | lost vain => simp [vain, newControls]
  | accepted n wellFormed =>
    rw [heardPdu?_of_ofBytes wellFormed]
    exact c.ack.toList_newControl? _
  | terminated n request wellFormed _ new =>
    rw [heardPdu?_of_ofBytes wellFormed, Option.toList_some, ← c.ack.toList_newControl?, new]
    rfl

theorem nextExpected_after (c : Connection) (heard : Option RxFrame) :
    (c.after heard).ack.nextExpected = (c.ack.afterPdus (heardPdu? heard).toList).nextExpected := by
  cases pdu : heardPdu? heard with
  | none => simp [Connection.after_of_vain pdu, AckState.afterPdus]
  | some pdu =>
    obtain ⟨frame, rfl, wellFormed⟩ := heardPdu?_eq_some.mp pdu
    simp [c.after_of_ofBytes wellFormed, AckState.afterPdus]

theorem Run.dispatched_eq {link link' : Link} {w w' : World P} {stages : List Stage}
    {c : Connection} (run : Run link w stages link' w') (start : link.state = .connected c)
    (connected : ∀ stage ∈ stages, stage.before.state.isConnected = true) :
    ∃ frames, w'.radio.frames = w.radio.frames ++ frames ∧ w'.dispatched.toList =
      w.dispatched.toList ++ newControls c.ack.nextExpected (dataPdus frames) := by
  induction run generalizing c with
  | nil link w => exact ⟨[], by simp, by simp [dataPdus, newControls]⟩
  | @cons link next link' w u w' event stages step rest ih =>
    obtain ⟨heard, radio, new, i, j, hears, reacts, handed⟩ := step.of_connected start
    have one : u.radio.frames = w.radio.frames ++ heard.toList := by
      rw [reacts.frames_eq, hears.frames_eq]
    have handed : u.dispatched.toList =
        w.dispatched.toList ++ newControls c.ack.nextExpected (heardPdu? heard).toList := by
      rw [handed, reacts.new_eq]
      rfl
    have later := (List.forall_mem_cons.mp connected).2
    obtain rfl | rfl := reacts.link_eq
    · obtain ⟨frames, came, rest⟩ := ih rfl later
      refine ⟨heard.toList ++ frames, by rw [came, one, List.append_assoc], ?_⟩
      rw [rest, handed, dataPdus_append, c.ack.newControls_append, List.append_assoc,
        nextExpected_after]
      rfl
    · -- The connection has ended, so this was the last step.
      obtain ⟨-, -, rfl⟩ := rest.eq_nil_of_ended later rfl
      refine ⟨heard.toList, one, ?_⟩
      rw [handed, dataPdus_toList]

/-- While a connection lasts, every new control PDU is handed on exactly once and in order, and
a retransmission never is. The frame that establishes the connection is not handed on, but its
own retransmissions are not new either. -/
theorem controls_dispatched_once {link link₁ link₂ : Link} {w w₁ w₂ : World P} {event : LinkEvent}
    {stages : List Stage} {c : Connection} (waiting : link.state = .connectRequest c)
    (established : link.Step w event link₁ w₁) (run : Run link₁ w₁ stages link₂ w₂)
    (connected : ∀ stage ∈ stages, stage.before.state.isConnected = true) :
    ∃ first frames ack handed, w₂.radio.frames = w.radio.frames ++ first :: frames ∧
      ack = c.ack.afterFrame first.bytes ∧
      w₂.dispatched.toList = w.dispatched.toList ++ handed ∧
      ack.HasHandedOn (dataPdus frames) handed ∧
      ∀ header again pdus, DataHeader.ofFrame? first.bytes = some header →
        again.header.sn = header.sn → dataPdus frames = again :: pdus →
        handed = newControls ack.nextExpected pdus := by
  obtain ⟨first, radio, n, m, heard, answered, same, -, state⟩ :=
    established.of_connectRequest waiting
  obtain ⟨frames, came, handed⟩ := run.dispatched_eq state connected
  have one : w₁.radio.frames = w.radio.frames ++ [first] := by
    rw [answered, heard]
    simp [Radio.frames, List.filterMap_cons, RadioEvent.frame?]
  refine ⟨first, frames, _, _, ?_, rfl, ?_, AckState.hasHandedOn_newControls _ _, ?_⟩
  · rw [came, one, List.append_assoc, List.singleton_append]
  · rw [handed, same]
    rfl
  · intro header again pdus read repeated pdusEq
    have expected : (c.ack.afterFrame first.bytes).nextExpected = !header.sn := by
      rw [AckState.afterFrame, read]
      exact c.ack.nextExpected_afterReceive header
    rw [expected, pdusEq]
    exact AckState.newControls_retransmitted repeated pdus

/-- Three connection events after the establishment: a new control PDU, its retransmission and
a request to terminate. -/
theorem controls_dispatched_once_of_termination :
    ∃ (link link₁ link₂ : Link) (w w₁ w₂ : World ScriptedPeer) (event : LinkEvent)
      (stages : List Stage) (c : Connection), link.state = .connectRequest c ∧
      link.Step w event link₁ w₁ ∧ Run link₁ w₁ stages link₂ w₂ ∧ stages.length = 3 ∧
      (∀ stage ∈ stages, stage.before.state.isConnected = true) ∧
      w₂.dispatched.toList = [⟨.versionInd, [9]⟩, ⟨.terminateInd, [0x13]⟩] ∧
      ∃ first frames ack handed, w₂.radio.frames = w.radio.frames ++ first :: frames ∧
        ack = c.ack.afterFrame first.bytes ∧
        w₂.dispatched.toList = w.dispatched.toList ++ handed ∧
        ack.HasHandedOn (dataPdus frames) handed ∧
        ∀ header again pdus, DataHeader.ofFrame? first.bytes = some header →
          again.header.sn = header.sn → dataPdus frames = again :: pdus →
          handed = newControls ack.nextExpected pdus := by
  have passes : testConnecting (({} : ControlTable).register .terminateInd .terminateOnRequest)
      [some ⟨100, [0x01, 0]⟩, some ⟨100, [0x0b, 2, 0x0c, 9]⟩, some ⟨100, [0x0b, 2, 0x0c, 9]⟩,
        some ⟨100, [0x03, 2, 0x02, 0x13]⟩]
      (fun link w => LinkM.test link.step { w with polls := 10 } fun outcome w =>
        testRun 500 (fun _ w =>
          w.dispatched.toList = [⟨.versionInd, [9]⟩, ⟨.terminateInd, [0x13]⟩]) 3 outcome.2 w) =
        true := by
    decide +kernel
  obtain ⟨link, w, c, -, waiting, passes⟩ := Reachable.of_test passes
  obtain ⟨event, link₁, w₁, established, passes⟩ := Step.of_test passes
  obtain ⟨stages, link₂, w₂, run, length, connected, handed⟩ := Run.of_test passes
  exact ⟨link, link₁, link₂, w, w₁, w₂, event, stages, c, waiting, established, run, length,
    connected, of_decide_eq_true handed,
    controls_dispatched_once waiting established run connected⟩

/-- The frame that establishes a connection may hold a new control PDU. It is acknowledged, and
the peer has no reason to send it again, but it is not handed on. -/
theorem first_control_not_dispatched :
    ¬ ∀ (link link₁ link₂ : Link) (w w₁ w₂ : World ScriptedPeer) (event : LinkEvent)
      (stages : List Stage) (c : Connection), Reachable link w → link.state = .connectRequest c →
      link.Step w event link₁ w₁ → Run link₁ w₁ stages link₂ w₂ →
      (∀ stage ∈ stages, stage.before.state.isConnected = true) →
      ∃ frames, w₂.radio.frames = w.radio.frames ++ frames ∧
        w₂.dispatched.toList =
          w.dispatched.toList ++ newControls c.ack.nextExpected (dataPdus frames) := by
  intro handed
  have passes : testConnecting {} [some ⟨100, [0x03, 2, 0x02, 0x13]⟩]
      (fun link w => LinkM.test link.step { w with polls := 10 } fun _ w₁ =>
        link.state.connection?.any fun c =>
          newControls c.ack.nextExpected (dataPdus (w₁.radio.frames.drop w.radio.frames.length)) =
            [⟨.terminateInd, [0x13]⟩] &&
          w.dispatched.toList = [] && w₁.dispatched.toList = []) = true := by
    decide +kernel
  obtain ⟨link, w, c, reached, waiting, passes⟩ := Reachable.of_test passes
  obtain ⟨event, link₁, w₁, established, passes⟩ := Step.of_test passes
  obtain ⟨frames, came, all⟩ :=
    handed link link₁ link₁ w w₁ w₁ event [] c reached waiting established (.nil link₁ w₁) (by simp)
  rw [waiting, LinkState.connection?, Option.any_some, Bool.and_eq_true, Bool.and_eq_true,
    decide_eq_true_eq, decide_eq_true_eq, decide_eq_true_eq, came, List.drop_left] at passes
  obtain ⟨⟨new, before⟩, after⟩ := passes
  rw [new, before, after] at all
  cases all

end Link

end BlePeripheral

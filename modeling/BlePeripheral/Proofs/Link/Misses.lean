import BlePeripheral.Proofs.Link.Windows
import Mathlib.Data.List.DropRight

/-! The miss counter. It counts the windows that stayed silent since the last data PDU; a frame
that holds none is passed over. -/

namespace BlePeripheral

/-- The last windows of a row, as far back as no data PDU was heard. -/
def vainStretch (windows : List (UInt8 × Option RxFrame)) : List (UInt8 × Option RxFrame) :=
  windows.rtakeWhile fun window => (heardPdu? window.2).isNone

def silentCount (windows : List (UInt8 × Option RxFrame)) : Nat :=
  windows.countP fun window => window.2.isNone

theorem vainStretch_concat_of_vain {window : UInt8 × Option RxFrame}
    (vain : heardPdu? window.2 = none) (windows : List (UInt8 × Option RxFrame)) :
    vainStretch (windows ++ [window]) = vainStretch windows ++ [window] :=
  List.rtakeWhile_concat_pos _ _ _ (by rw [vain]; rfl)

theorem vainStretch_concat_of_heard {window : UInt8 × Option RxFrame} {pdu : DataPdu}
    (heard : heardPdu? window.2 = some pdu) (windows : List (UInt8 × Option RxFrame)) :
    vainStretch (windows ++ [window]) = [] :=
  List.rtakeWhile_concat_neg _ _ _ (by rw [heard]; nofun)

namespace Connection

theorem missed_after_of_heard {c : Connection} {heard : Option RxFrame} {pdu : DataPdu}
    (h : heardPdu? heard = some pdu) : (c.after heard).missed = 0 := by
  obtain ⟨frame, rfl, wellFormed⟩ := heardPdu?_eq_some.mp h
  rw [c.after_of_ofBytes wellFormed]

theorem missed_after_of_vain {c : Connection} {window : UInt8 × Option RxFrame}
    (vain : heardPdu? window.2 = none) :
    (c.after window.2).missed.toNat = (c.missed.toNat + silentCount [window]) % 4294967296 := by
  obtain ⟨channel, heard⟩ := window
  obtain rfl | ⟨frame, defect, rfl, malformed⟩ := heardPdu?_eq_none.mp vain
  · exact UInt32.toNat_add c.missed 1
  · rw [c.after_of_error malformed]
    exact (Nat.mod_eq_of_lt c.missed.toNat_lt).symm

theorem missed_afterEvents {c : Connection} (fresh : c.missed = 0)
    (windows : List (UInt8 × Option RxFrame)) :
    (c.afterEvents windows).missed.toNat = silentCount (vainStretch windows) % 4294967296 := by
  induction windows using List.reverseRecOn with
  | nil => rw [afterEvents, List.foldl_nil, fresh]; rfl
  | append_singleton windows window ih =>
    have last : c.afterEvents (windows ++ [window]) =
        (c.afterEvents windows).nextEvent.after window.2 := List.foldl_concat ..
    have kept : (c.afterEvents windows).nextEvent.missed = (c.afterEvents windows).missed := rfl
    rw [last]
    cases heard : heardPdu? window.2 with
    | some pdu =>
      rw [missed_after_of_heard heard, vainStretch_concat_of_heard heard]
      rfl
    | none =>
      rw [missed_after_of_vain heard, kept, ih, vainStretch_concat_of_vain heard, silentCount,
        silentCount, silentCount, List.countP_append, Nat.mod_add_mod]

end Connection

namespace Link

variable {P : Type} [Peer P]

/-- A connected link was set up in the course of the run, and its connection has missed as many
windows as stayed silent since then or since the last data PDU, up to the wrap of the counter. -/
theorem missed_counts_silent_windows {config : LinkConfig} {controls : ControlTable}
    {radio : Radio P} {link link' : Link} {w w' : World P} {stages : List Stage} {c : Connection}
    (started : start config controls radio = .ok (link, w))
    (course : Course link w stages link' w') (connected : link'.state = .connected c) :
    ∃ before setUp events link₁ w₁ log,
      stages = before ++ setUp :: events ∧ setUp.before.state.phase = .connectRequest ∧
      Course link w (before ++ [setUp]) link₁ w₁ ∧ Course link₁ w₁ events link' w' ∧
      (∀ stage ∈ events, stage.before.state.isConnected = true) ∧
      w'.radio.journal.toList = w₁.radio.journal.toList ++ log ∧
      (listenings log).length = events.length ∧
      c.missed.toNat = silentCount (vainStretch (listenings log)) % 4294967296 := by
  obtain ⟨prepared, -, rfl, rfl⟩ := start_eq_ok.mp started
  obtain ⟨already, -⟩ | split := course.since_established nofun (by rw [connected]; rfl)
  · cases already
  obtain ⟨before, setUp, events, link₁, w₁, context, rate, first, anchor, rfl, asked, opening,
    established, since, lasts⟩ := split
  obtain ⟨log, journal, -, length, stays | ended⟩ := since.windows established lasts
  · rw [connected] at stays
    cases stays
    have fresh : ((Connection.ofContext context rate).established first anchor).missed = 0 := rfl
    exact ⟨before, setUp, events, link₁, w₁, log, rfl, asked, opening, since, lasts, journal,
      length, Connection.missed_afterEvents fresh _⟩
  · rw [connected] at ended
    cases ended

/-- After a PDU come a missed window, a malformed frame and another missed window. -/
theorem missed_counts_silent_windows_of_mixed :
    ∃ (radio : Radio ScriptedPeer) (link link' : Link) (w w' : World ScriptedPeer)
      (stages : List Stage) (c : Connection), start {} {} radio = .ok (link, w) ∧
      Course link w stages link' w' ∧ link'.state = .connected c ∧ c.missed = 2 ∧
      stages.map Stage.event =
        [.connectRequested (.ofAir [0xb0, 0xec, 0xa7, 0x55, 0xd4, 0x6b]) 0x50654b3a 7,
          .connected 0x50654b3a 7, .eventMissed (.windowMiss 1) 1,
          .dataReceived 21 .dataContinue 0 false, .eventMissed (.windowMiss 3) 1,
          .frameDiscarded (.malformedFrame (.missingHeader 1)), .eventMissed (.windowMiss 5) 2] ∧
      ∃ before setUp events link₁ w₁ log,
        stages = before ++ setUp :: events ∧ setUp.before.state.phase = .connectRequest ∧
        Course link w (before ++ [setUp]) link₁ w₁ ∧ Course link₁ w₁ events link' w' ∧
        (∀ stage ∈ events, stage.before.state.isConnected = true) ∧
        w'.radio.journal.toList = w₁.radio.journal.toList ++ log ∧
        (listenings log).length = events.length ∧
        c.missed.toNat = silentCount (vainStretch (listenings log)) % 4294967296 := by
  have passes : testStart {} [some ⟨100, [0x01, 0]⟩, none, some ⟨1000, [0x0d, 0]⟩, none,
      some ⟨100, [0x01]⟩, none] 0
      (testEvents 500 (fun link' _ => link'.state.isConnected &&
          link'.state.connection?.all fun c => c.missed = 2)
        [.connectRequested (.ofAir [0xb0, 0xec, 0xa7, 0x55, 0xd4, 0x6b]) 0x50654b3a 7,
          .connected 0x50654b3a 7, .eventMissed (.windowMiss 1) 1,
          .dataReceived 21 .dataContinue 0 false, .eventMissed (.windowMiss 3) 1,
          .frameDiscarded (.malformedFrame (.missingHeader 1)),
          .eventMissed (.windowMiss 5) 2]) = true := by
    decide +kernel
  obtain ⟨link, w, started, passes⟩ := start_of_test passes
  obtain ⟨stages, link', w', run, events, passes⟩ := Run.of_testEvents passes
  rw [Bool.and_eq_true] at passes
  obtain ⟨still, missed⟩ := passes
  obtain ⟨c, stays⟩ := LinkState.exists_of_isConnected still
  rw [stays, LinkState.connection?, Option.all_some, decide_eq_true_eq] at missed
  exact ⟨_, link, link', w, w', stages, c, started, run.course, stays, missed, events,
    missed_counts_silent_windows started run.course stays⟩

/-- A malformed frame ends no stretch of missed windows, but it is not counted as one of them
either: there may have been an event without a data PDU and none that was missed. -/
theorem malformed_frame_not_counted :
    ¬ ∀ (link link' : Link) (w w' : World ScriptedPeer) (setUp : Stage) (events : List Stage)
      (c c' : Connection), Reachable link w → link.state = .connectRequest c →
      Course link w (setUp :: events) link' w' →
      (∀ stage ∈ events, stage.before.state.isConnected = true) → link'.state = .connected c' →
      ∃ first windows log, w'.radio.journal.toList = w.radio.journal.toList ++ log ∧
        listenings log = (c.channel, some first) :: windows ∧
        c'.missed.toNat = (vainStretch windows).length % 4294967296 := by
  intro counted
  have passes : testConnecting {} [some ⟨100, [0x01, 0]⟩, some ⟨100, [0x01]⟩]
      (fun link w => LinkM.test link.step { w with polls := 10 } fun outcome w₁ =>
        testRun 500 (fun link' w' => link'.state.isConnected &&
          (link'.state.connection?.all fun c' => c'.missed = 0) &&
          (vainStretch (listenings
            (w'.radio.journal.toList.drop w.radio.journal.toList.length)).tail).length = 1)
          1 outcome.2 w₁) = true := by
    decide +kernel
  obtain ⟨link, w, c, reached, waiting, passes⟩ := Reachable.of_test passes
  obtain ⟨event, link₁, w₁, established, passes⟩ := Step.of_test passes
  obtain ⟨stages, link', w', run, length, connected, passes⟩ := Run.of_test passes
  simp only [Bool.and_eq_true, decide_eq_true_eq] at passes
  obtain ⟨⟨still, none⟩, one⟩ := passes
  obtain ⟨c', stays⟩ := LinkState.exists_of_isConnected still
  obtain ⟨first, windows, log, journal, heard, missed⟩ :=
    counted link link' w w' ⟨link, event, link₁⟩ stages c c' reached waiting
      (.step (.refl link w) established run.course) connected stays
  rw [journal, List.drop_left, heard, List.tail_cons] at one
  rw [stays, LinkState.connection?, Option.all_some, decide_eq_true_eq] at none
  rw [one, none] at missed
  cases missed

end Link

end BlePeripheral

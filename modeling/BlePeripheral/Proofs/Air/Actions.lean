import BlePeripheral.Air.World
import BlePeripheral.Proofs.Air.Listening

/-! What an action has done to the world when it returns. An action that gives up is never
followed by another, so a sequence that returns is one whose parts all did. -/

namespace BlePeripheral

namespace LinkM

variable {P α β : Type}

theorem bind_eq_ok {x : LinkM P α} {f : α → LinkM P β} {w w' : World P} {b : β} :
    (x >>= f) w = .ok b w' ↔ ∃ a u, x w = .ok a u ∧ f a u = .ok b w' := by
  change EStateM.bind x f w = .ok b w' ↔ _
  unfold EStateM.bind
  cases x w with
  | ok a u =>
    constructor
    · intro h
      exact ⟨a, u, rfl, h⟩
    · rintro ⟨_, _, same, h⟩
      cases same
      exact h
  | error e u => simp

theorem bind_of_ok {x : LinkM P α} {f : α → LinkM P β} {w u : World P} {a : α} (h : x w = .ok a u) :
    (x >>= f) w = f a u := by
  change EStateM.bind x f w = _
  rw [EStateM.bind, h]

theorem bind_of_error {x : LinkM P α} {f : α → LinkM P β} {w u : World P} {hang : Hang}
    (h : x w = .error hang u) : (x >>= f) w = .error hang u := by
  change EStateM.bind x f w = _
  rw [EStateM.bind, h]

theorem pure_eq_ok {a b : α} {w w' : World P} :
    (pure a : LinkM P α) w = .ok b w' ↔ a = b ∧ w = w' := by
  change EStateM.Result.ok a w = .ok b w' ↔ _
  simp

def test (x : LinkM P α) (w : World P) (holds : α → World P → Bool) : Bool :=
  match x w with
  | .ok a w' => holds a w'
  | .error _ _ => false

theorem eq_ok_of_test {x : LinkM P α} {w : World P} {holds : α → World P → Bool}
    (h : test x w holds = true) : ∃ a w', x w = .ok a w' ∧ holds a w' = true := by
  unfold test at h
  cases returned : x w with
  | ok a w' =>
    rw [returned] at h
    exact ⟨a, w', rfl, h⟩
  | error e u =>
    rw [returned] at h
    cases h

theorem note_apply (notice : Notice) (w : World P) :
    note notice w = .ok () { w with notices := w.notices.push notice } := rfl

theorem configure_apply (accessAddress crcInit : UInt32) (phy : Phy) (w : World P) :
    configure accessAddress crcInit phy w =
      .ok () { w with radio := w.radio.configure accessAddress crcInit phy } := rfl

theorem send_apply [Peer P] (pdu : Bytes) (channel : UInt8) (w : World P) :
    send pdu channel w = .ok ()
      { w with
        radio := w.radio.transmit channel pdu
        notices := w.notices.push (.pduSent channel pdu) } := rfl

theorem receive_apply [Peer P] (channel : UInt8) (w : World P) :
    receive channel w = .ok ()
      { w with
        radio := (w.radio.receive channel).2
        notices := w.notices.appendList (w.radio.receive channel).1 } := rfl

theorem awaitRadio_eq_ok {wait : Nat → Radio P → Waited (Radio P) α} {w w' : World P} {a : α}
    (h : awaitRadio wait w = .ok a w') :
    ∃ radio rest, wait w.polls w.radio = ⟨some a, rest, radio⟩ ∧
      w' = { w with radio, polls := rest } := by
  unfold awaitRadio at h
  rcases waited : wait w.polls w.radio with ⟨_ | a', rest, radio⟩
  · simp only [waited] at h
    cases h
  · simp only [waited] at h
    cases h
    exact ⟨radio, rest, rfl, rfl⟩

theorem awaitClock_eq_ok {wait : Nat → Clock → Waited Clock α} {w w' : World P} {a : α}
    (h : awaitClock wait w = .ok a w') :
    ∃ clock rest, wait w.polls w.radio.clock = ⟨some a, rest, clock⟩ ∧
      w' = { w with radio := { w.radio with clock }, polls := rest } := by
  obtain ⟨radio, rest, waited, rfl⟩ := awaitRadio_eq_ok h
  rcases inner : wait w.polls w.radio.clock with ⟨value, rest', clock⟩
  simp only [inner, Waited.mk.injEq] at waited
  obtain ⟨rfl, rfl, rfl⟩ := waited
  exact ⟨clock, rest', rfl, rfl⟩

theorem readClock_eq_ok {w w' : World P} {now : Tick} (h : readClock w = .ok now w') :
    ∃ rest, now = w.radio.clock.now ∧ w' = { w with radio := w.radio.afterReads 1, polls := rest } := by
  obtain ⟨clock, rest, waited, rfl⟩ := awaitClock_eq_ok h
  rcases polls : w.polls with _ | polls
  · rw [polls] at waited
    cases waited
  · rw [polls] at waited
    cases waited
    refine ⟨rest, rfl, ?_⟩
    rw [Clock.afterRead_eq]
    rfl

theorem waitUntil_eq_ok {start : Tick} {span : UInt32} {w w' : World P} {u : Unit}
    (h : waitUntil start span w = .ok u w') :
    ∃ n rest, w' = { w with radio := w.radio.afterReads (n + 1), polls := rest } ∧
      w.radio.clock.elapsedAt start span n = true ∧
      ∀ i < n, w.radio.clock.elapsedAt start span i = false := by
  obtain ⟨clock, rest, waited, rfl⟩ := awaitClock_eq_ok h
  obtain ⟨n, -, rfl, passed, before⟩ := Clock.waitUntil_eq_some waited
  exact ⟨n, rest, rfl, passed, before⟩

theorem waitUntil_of_takes {start : Tick} {span : UInt32} {w : World P} {reads : Nat}
    (takes : w.radio.clock.WaitTakes start span reads) :
    waitUntil start span w =
      if reads ≤ w.polls then
        .ok () { w with radio := w.radio.afterReads reads, polls := w.polls - reads }
      else .error .outOfPolls { w with radio := w.radio.afterReads w.polls, polls := 0 } := by
  unfold waitUntil awaitClock awaitRadio
  simp only [takes w.polls]
  by_cases enough : reads ≤ w.polls
  · simp only [if_pos enough]
    rfl
  · simp only [if_neg enough]
    rfl

theorem listen_eq_ok {start : Tick} {span : UInt32} {w w' : World P} {heard : Option RxFrame}
    (h : listen start span w = .ok heard w') :
    ∃ radio rest, w' = { w with radio, polls := rest } ∧
      w.radio.Heard start span heard radio := by
  obtain ⟨radio, rest, waited, rfl⟩ := awaitRadio_eq_ok h
  exact ⟨radio, rest, rfl, Radio.listen_eq_some waited⟩

theorem waitForFrame_eq_ok {w w' : World P} {frame : RxFrame}
    (h : waitForFrame w = .ok frame w') :
    ∃ n rest opened delivery,
      w' = { w with radio := (w.radio.afterReads (n + 1)).deliver frame, polls := rest } ∧
      w.radio.awaited = some (opened, delivery) ∧ frame = Radio.completed opened delivery ∧
      w.radio.clock.elapsedAt opened delivery.delay n = true ∧
      ∀ i < n, w.radio.dueAt i = false := by
  obtain ⟨radio, rest, waited, rfl⟩ := awaitRadio_eq_ok h
  obtain ⟨n, opened, delivery, awaited, due, early, rfl, rfl⟩ := Radio.waitForFrame_eq_some waited
  exact ⟨n, rest, opened, delivery, rfl, awaited, rfl, due, early⟩

end LinkM

end BlePeripheral

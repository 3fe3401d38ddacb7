import BlePeripheral.Proofs.Time.Reads

/-! What a radio has done when a wait for a frame is over. The two waits differ only in whether
they also look at the clock between one question and the next. -/

namespace BlePeripheral

namespace RadioEvent

def frame? : RadioEvent → Option RxFrame
  | delivered frame => some frame
  | _ => none

def sent? : RadioEvent → Option (UInt8 × Bytes)
  | transmitted channel pdu _ => some (channel, pdu)
  | _ => none

def listenedOn? : RadioEvent → Option UInt8
  | listened channel _ => some channel
  | _ => none

end RadioEvent

namespace Radio

variable {P : Type}

def frames (radio : Radio P) : List RxFrame := radio.journal.toList.filterMap RadioEvent.frame?

def afterReads (radio : Radio P) (n : Nat) : Radio P :=
  { radio with clock := radio.clock.afterReads n }

def deliver (radio : Radio P) (frame : RxFrame) : Radio P :=
  { radio.record (.delivered frame) with listening := none, received := some frame }

@[simp] theorem afterReads_afterReads (radio : Radio P) (m n : Nat) :
    (radio.afterReads m).afterReads n = radio.afterReads (m + n) := by
  simp [afterReads]

@[simp] theorem afterReads_zero (radio : Radio P) : radio.afterReads 0 = radio := by
  simp [afterReads]

@[simp] theorem afterReads_clock (radio : Radio P) (n : Nat) :
    (radio.afterReads n).clock = radio.clock.afterReads n := rfl

@[simp] theorem afterReads_journal (radio : Radio P) (n : Nat) :
    (radio.afterReads n).journal = radio.journal := rfl

@[simp] theorem deliver_clock (radio : Radio P) (frame : RxFrame) :
    (radio.deliver frame).clock = radio.clock := rfl

@[simp] theorem deliver_journal (radio : Radio P) (frame : RxFrame) :
    (radio.deliver frame).journal.toList = radio.journal.toList ++ [.delivered frame] := by
  simp [deliver, record]

@[simp] theorem idle_clock (radio : Radio P) : radio.idle.clock = radio.clock := rfl

@[simp] theorem idle_journal (radio : Radio P) :
    radio.idle.journal.toList = radio.journal.toList ++ [.idled radio.clock.time] := by
  simp [idle, record]

@[simp] theorem configure_clock (radio : Radio P) (accessAddress crcInit : UInt32) (phy : Phy) :
    (radio.configure accessAddress crcInit phy).clock = radio.clock := rfl

@[simp] theorem configure_journal (radio : Radio P) (accessAddress crcInit : UInt32) (phy : Phy) :
    (radio.configure accessAddress crcInit phy).journal.toList =
      radio.journal.toList ++ [.configured accessAddress crcInit phy] := by
  simp [configure, record]

@[simp] theorem transmit_clock [Peer P] (radio : Radio P) (channel : UInt8) (pdu : Bytes) :
    (radio.transmit channel pdu).clock = radio.clock := rfl

@[simp] theorem transmit_journal [Peer P] (radio : Radio P) (channel : UInt8) (pdu : Bytes) :
    (radio.transmit channel pdu).journal.toList =
      radio.journal.toList ++ [.transmitted channel pdu radio.clock.time] := by
  simp [transmit, record]

@[simp] theorem receive_clock [Peer P] (radio : Radio P) (channel : UInt8) :
    (radio.receive channel).2.clock = radio.clock := rfl

@[simp] theorem receive_journal [Peer P] (radio : Radio P) (channel : UInt8) :
    (radio.receive channel).2.journal.toList =
      radio.journal.toList ++ [.listened channel radio.clock.time] := by
  simp [receive, record]

def awaited (radio : Radio P) : Option (Tick × Delivery) :=
  radio.listening.bind fun l => l.delivery.map fun delivery => (l.opened, delivery)

@[simp] theorem awaited_afterReads (radio : Radio P) (n : Nat) :
    (radio.afterReads n).awaited = radio.awaited := rfl

def offer [Peer P] (radio : Radio P) (channel : UInt8) : Reply × P :=
  Peer.onListen radio.peer channel radio.accessAddress radio.clock.now

@[simp] theorem receive_peer [Peer P] (radio : Radio P) (channel : UInt8) :
    (radio.receive channel).2.peer = (radio.offer channel).2 := rfl

theorem awaited_receive [Peer P] (radio : Radio P) (channel : UInt8) :
    (radio.receive channel).2.awaited =
      (radio.offer channel).1.delivery.map (radio.clock.now, ·) := rfl

def dueAt (radio : Radio P) (i : Nat) : Bool :=
  radio.awaited.any fun (opened, delivery) => radio.clock.elapsedAt opened delivery.delay i

theorem dueAt_of_awaited {radio : Radio P} {opened : Tick} {delivery : Delivery}
    (awaited : radio.awaited = some (opened, delivery)) (i : Nat) :
    radio.dueAt i = radio.clock.elapsedAt opened delivery.delay i := by
  rw [dueAt, awaited]
  rfl

@[simp] theorem dueAt_afterReads (radio : Radio P) (m i : Nat) :
    (radio.afterReads m).dueAt i = radio.dueAt (m + i) := by
  simp [dueAt]

def completed (opened : Tick) (delivery : Delivery) : RxFrame :=
  ⟨delivery.bytes, opened + delivery.delay⟩

theorem afterRead_eq (radio : Radio P) : radio.afterRead = radio.afterReads 1 := by
  simp [afterRead, afterReads, Clock.afterRead_eq]

theorem rxReady_eq (radio : Radio P) :
    radio.rxReady =
      match radio.awaited with
      | some (opened, delivery) =>
        if hasElapsed radio.clock.now opened delivery.delay then
          (true, radio.afterRead.deliver (completed opened delivery))
        else (false, radio.afterRead)
      | none => (false, radio.afterRead) := by
  unfold rxReady awaited
  dsimp only [afterRead]
  rcases radio.listening with _ | ⟨opened, _ | delivery⟩ <;> rfl

theorem rxReady_cases (radio : Radio P) :
    (radio.rxReady = (false, radio.afterReads 1) ∧ radio.dueAt 0 = false) ∨
      ∃ opened delivery, radio.awaited = some (opened, delivery) ∧
        radio.clock.elapsedAt opened delivery.delay 0 = true ∧
        radio.rxReady = (true, (radio.afterReads 1).deliver (completed opened delivery)) := by
  rw [rxReady_eq, afterRead_eq]
  rcases awaits : radio.awaited with _ | ⟨opened, delivery⟩
  · exact .inl ⟨rfl, by simp [dueAt, awaits]⟩
  · by_cases due : hasElapsed radio.clock.now opened delivery.delay = true
    · exact .inr ⟨opened, delivery, rfl, by simpa [Clock.elapsedAt] using due, if_pos due⟩
    · exact .inl ⟨if_neg due, by simpa [dueAt, awaits, Clock.elapsedAt] using due⟩

theorem eq_of_rxReady_eq_false {radio radio' : Radio P} (h : radio.rxReady = (false, radio')) :
    radio' = radio.afterReads 1 ∧ radio.dueAt 0 = false := by
  obtain ⟨no, early⟩ | ⟨_, _, _, _, yes⟩ := radio.rxReady_cases
  · rw [no] at h
    exact ⟨(Prod.mk.inj h).2.symm, early⟩
  · rw [yes] at h
    cases (Prod.mk.inj h).1

theorem eq_of_rxReady_eq_true {radio radio' : Radio P} (h : radio.rxReady = (true, radio')) :
    ∃ opened delivery, radio.awaited = some (opened, delivery) ∧
      radio.clock.elapsedAt opened delivery.delay 0 = true ∧
      radio' = (radio.afterReads 1).deliver (completed opened delivery) := by
  obtain ⟨no, _⟩ | ⟨opened, delivery, awaited, due, yes⟩ := radio.rxReady_cases
  · rw [no] at h
    cases (Prod.mk.inj h).1
  · rw [yes] at h
    exact ⟨opened, delivery, awaited, due, (Prod.mk.inj h).2.symm⟩

/-- The outcome of listening while a window is open, with the readings it took. -/
inductive Heard (radio : Radio P) (start : Tick) (span : UInt32) :
    Option RxFrame → Radio P → Prop
  /-- The frame was there before the window was found closed. -/
  | frame (n : Nat) (opened : Tick) (delivery : Delivery)
      (awaited : radio.awaited = some (opened, delivery))
      (due : radio.clock.elapsedAt opened delivery.delay (2 * n) = true)
      (early : ∀ i < n, radio.dueAt (2 * i) = false)
      (isOpen : ∀ i < n, radio.clock.elapsedAt start span (2 * i + 1) = false) :
      Heard radio start span (some (completed opened delivery))
        ((radio.afterReads (2 * n + 1)).deliver (completed opened delivery))
  /-- The window was found closed and no frame had come. -/
  | silence (n : Nat) (early : ∀ i < n + 1, radio.dueAt (2 * i) = false)
      (closed : radio.clock.elapsedAt start span (2 * n + 1) = true)
      (isOpen : ∀ i < n, radio.clock.elapsedAt start span (2 * i + 1) = false) :
      Heard radio start span none (radio.afterReads (2 * n + 2)).idle

theorem Heard.journal_none {radio radio' : Radio P} {start : Tick} {span : UInt32}
    (h : Heard radio start span none radio') :
    ∃ time, radio'.journal.toList = radio.journal.toList ++ [.idled time] := by
  cases h
  exact ⟨_, idle_journal _⟩

theorem Heard.journal_some {radio radio' : Radio P} {start : Tick} {span : UInt32}
    {frame : RxFrame} (h : Heard radio start span (some frame) radio') :
    radio'.journal.toList = radio.journal.toList ++ [.delivered frame] := by
  cases h
  exact deliver_journal _ _

theorem Heard.peer_eq {radio radio' : Radio P} {start : Tick} {span : UInt32}
    {heard : Option RxFrame} (h : Heard radio start span heard radio') :
    radio'.peer = radio.peer := by
  cases h <;> rfl

theorem Heard.readsTo {radio radio' : Radio P} {start : Tick} {span : UInt32}
    {heard : Option RxFrame} (h : Heard radio start span heard radio') :
    radio.clock.ReadsTo radio'.clock := by
  cases h with
  | frame n => exact radio.clock.readsTo_afterReads (2 * n + 1)
  | silence n => exact radio.clock.readsTo_afterReads (2 * n + 2)

theorem Heard.offered [Peer P] {radio radio' radio'' : Radio P} {channel : UInt8} {start : Tick}
    {span : UInt32} {frame : RxFrame} (h : Heard radio' start span (some frame) radio'')
    (listens : radio'.awaited = (radio.receive channel).2.awaited) :
    ∃ delivery, (radio.offer channel).1.delivery = some delivery ∧ frame.bytes = delivery.bytes := by
  cases h with
  | frame n opened delivery awaited =>
    rw [listens, awaited_receive] at awaited
    obtain ⟨delivery', offered, same⟩ := Option.map_eq_some_iff.mp awaited
    cases same
    exact ⟨delivery, offered, rfl⟩

theorem Heard.received_eq {radio radio' : Radio P} {start : Tick} {span : UInt32}
    {frame : RxFrame} (h : Heard radio start span (some frame) radio') :
    radio'.received = some frame := by
  cases h
  rfl

theorem Heard.of_awaited_none {radio radio' : Radio P} {start : Tick} {span : UInt32}
    {heard : Option RxFrame} (h : Heard radio start span heard radio')
    (nothing : radio.awaited = none) : heard = none := by
  cases h with
  | frame n opened delivery awaited =>
    rw [nothing] at awaited
    cases awaited
  | silence => rfl

theorem Heard.eq_completed {radio radio' : Radio P} {start opened : Tick} {span : UInt32}
    {delivery : Delivery} {frame : RxFrame} (h : Heard radio start span (some frame) radio')
    (awaited : radio.awaited = some (opened, delivery)) : frame = completed opened delivery := by
  cases h with
  | frame n opened' delivery' awaited' =>
    rw [awaited] at awaited'
    cases awaited'
    rfl

theorem Heard.of_awaited {radio radio' : Radio P} {start opened : Tick} {span : UInt32}
    {delivery : Delivery} {heard : Option RxFrame} (h : Heard radio start span heard radio')
    (awaited : radio.awaited = some (opened, delivery))
    (inTime : (elapsedSince opened start).toNat + delivery.delay.toNat + radio.clock.step.toNat ≤
      span.toNat) : heard = some (completed opened delivery) := by
  cases heard with
  | some frame => rw [h.eq_completed awaited]
  | none =>
    cases h with
    | silence n early closed =>
      -- The question before the window was found closed would have found the frame.
      have asked := early n (Nat.lt_succ_self n)
      rw [dueAt_of_awaited awaited, Clock.elapsedAt_eq_false] at asked
      have shut := Clock.span_le_of_elapsedAt closed
      rw [Clock.toNat_elapsedSince_afterReads, Nat.add_mul] at shut
      have := opened.toNat_lt
      have := start.toNat_lt
      simp only [elapsedSince, UInt32.toNat_sub] at inTime
      omega

/-- A frame that is heard was complete when the radio began to listen, or is less than a step after
the window closes. -/
theorem Heard.closing_gt {radio radio' : Radio P} {start : Tick} {span : UInt32}
    {delivery : Delivery} {frame : RxFrame} (h : Heard radio start span (some frame) radio')
    (awaited : radio.awaited = some (radio.clock.now, delivery))
    (begun : (elapsedSince radio.clock.now start).toNat + 2 * radio.clock.step.toNat < 4294967296)
    (room : span.toNat + 2 * radio.clock.step.toNat < 4294967296) :
    delivery.delay.toNat = 0 ∨
      (elapsedSince radio.clock.now start).toNat + delivery.delay.toNat <
        span.toNat + radio.clock.step.toNat := by
  cases h with
  | frame n opened delivery' awaited' due early isOpen =>
    rw [awaited] at awaited'
    cases awaited'
    have found := Clock.span_le_of_elapsedAt due
    rw [Clock.toNat_elapsedSince_now] at found
    cases n with
    | zero =>
      left
      simpa using found
    | succ n =>
      -- The round before found the window open, and the next question is a step after that.
      have vain := Clock.vain_reads_lt 1 2 (Nat.le_of_lt room)
        (fun i hi => by simpa only [Nat.add_comm, Nat.mul_comm] using isOpen i hi) n n.lt_succ_self
      have whole : ((elapsedSince radio.clock.now start).toNat + 1 * radio.clock.step.toNat) %
          4294967296 = (elapsedSince radio.clock.now start).toNat + radio.clock.step.toNat := by
        rw [Nat.one_mul]
        exact Nat.mod_eq_of_lt (by omega)
      rw [Clock.toNat_elapsedSince_later, whole] at vain
      rw [Nat.mul_comm 2, Nat.mul_assoc, Nat.succ_mul] at found
      right
      have reached := Nat.le_trans found (Nat.mod_le _ _)
      omega

private theorem Heard.due_not_late {radio : Radio P} {start opened : Tick} {span : UInt32}
    {delivery : Delivery} {n m : Nat} (awaited : radio.awaited = some (opened, delivery))
    (due : radio.clock.elapsedAt opened delivery.delay (2 * n) = true)
    (isOpen : ∀ i < n, radio.clock.elapsedAt start span (2 * i + 1) = false)
    (early : ∀ i < m + 1, radio.dueAt (2 * i) = false)
    (closed : radio.clock.elapsedAt start span (2 * m + 1) = true) : False := by
  obtain before | after := Nat.lt_or_ge m n
  · rw [isOpen m before] at closed
    cases closed
  · have missed := early n (Nat.lt_succ_of_le after)
    rw [dueAt_of_awaited awaited, due] at missed
    cases missed

theorem Heard.heard_eq {radio radio' radio'' : Radio P} {start : Tick} {span : UInt32}
    {heard heard' : Option RxFrame} (h : Heard radio start span heard radio')
    (h' : Heard radio start span heard' radio'') : heard = heard' := by
  cases h with
  | frame n opened delivery awaited due _ isOpen =>
    cases h' with
    | frame _ _ _ awaited' =>
      rw [awaited] at awaited'
      cases awaited'
      rfl
    | silence m early closed => exact (due_not_late awaited due isOpen early closed).elim
  | silence m early closed =>
    cases h' with
    | frame n opened delivery awaited due _ isOpen =>
      exact (due_not_late awaited due isOpen early closed).elim
    | silence => rfl

private theorem Heard.after_round {radio radio' : Radio P} {start : Tick} {span : UInt32}
    {heard : Option RxFrame} (early : radio.dueAt 0 = false)
    (isOpen : radio.clock.elapsedAt start span 1 = false)
    (h : Heard (radio.afterReads 2) start span heard radio') : Heard radio start span heard radio' := by
  -- The rounds of the rest are numbered from two readings later.
  have shift (i : Nat) : 2 + 2 * i = 2 * (i + 1) := by omega
  have shift' (i : Nat) : 2 + (2 * i + 1) = 2 * (i + 1) + 1 := by omega
  cases h with
  | frame n opened delivery awaited due earlier isOpener =>
    simp only [afterReads_clock, Clock.elapsedAt_afterReads, dueAt_afterReads, shift, shift',
      awaited_afterReads] at awaited due earlier isOpener
    rw [afterReads_afterReads, shift']
    exact .frame (n + 1) opened delivery awaited due (Nat.forall_lt_succ_left.mpr ⟨early, earlier⟩)
      (Nat.forall_lt_succ_left.mpr ⟨isOpen, isOpener⟩)
  | silence n earlier closed isOpener =>
    simp only [afterReads_clock, Clock.elapsedAt_afterReads, dueAt_afterReads, shift,
      shift'] at closed earlier isOpener
    rw [afterReads_afterReads, ← Nat.add_assoc, shift]
    exact .silence (n + 1) (Nat.forall_lt_succ_left.mpr ⟨early, earlier⟩) closed
      (Nat.forall_lt_succ_left.mpr ⟨isOpen, isOpener⟩)

theorem listen_eq_some {start : Tick} {span : UInt32} {polls rest : Nat} {radio radio' : Radio P}
    {heard : Option RxFrame} (h : listen start span polls radio = ⟨some heard, rest, radio'⟩) :
    Heard radio start span heard radio' := by
  fun_induction listen start span polls radio with
  | case1 => cases h
  | case2 radio after ready =>
    obtain ⟨opened, delivery, awaited, due, rfl⟩ := eq_of_rxReady_eq_true ready
    cases h
    exact .frame 0 opened delivery awaited due (by simp) (by simp)
  | case3 => cases h
  | case4 polls radio after ready =>
    obtain ⟨opened, delivery, awaited, due, rfl⟩ := eq_of_rxReady_eq_true ready
    cases h
    exact .frame 0 opened delivery awaited due (by simp) (by simp)
  | case5 polls radio ready after asked no closed =>
    rw [Bool.not_eq_true] at no
    obtain ⟨rfl, early⟩ := eq_of_rxReady_eq_false (no ▸ asked)
    cases h
    rw [afterRead_eq, afterReads_afterReads]
    exact .silence 0 (by simpa using early) closed (by simp)
  | case6 polls radio ready after asked no still_open ih =>
    rw [Bool.not_eq_true] at no still_open
    obtain ⟨rfl, early⟩ := eq_of_rxReady_eq_false (no ▸ asked)
    rw [afterRead_eq, afterReads_afterReads] at ih
    rw [afterRead_eq, afterReads_afterReads] at h
    exact (ih h).after_round early still_open

theorem waitForFrame_eq_some {polls rest : Nat} {radio radio' : Radio P} {frame : RxFrame}
    (h : waitForFrame polls radio = ⟨some frame, rest, radio'⟩) :
    ∃ n opened delivery, radio.awaited = some (opened, delivery) ∧
      radio.clock.elapsedAt opened delivery.delay n = true ∧
      (∀ i < n, radio.dueAt i = false) ∧ frame = completed opened delivery ∧
      radio' = (radio.afterReads (n + 1)).deliver frame := by
  fun_induction waitForFrame polls radio with
  | case1 => cases h
  | case2 polls radio after ready =>
    obtain ⟨opened, delivery, awaited, due, rfl⟩ := eq_of_rxReady_eq_true ready
    cases h
    exact ⟨0, opened, delivery, awaited, due, by simp, rfl, rfl⟩
  | case3 polls radio ready after asked no ih =>
    rw [Bool.not_eq_true] at no
    obtain ⟨rfl, early⟩ := eq_of_rxReady_eq_false (no ▸ asked)
    obtain ⟨n, opened, delivery, awaited, due, earlier, rfl, rfl⟩ := ih h
    simp only [afterReads_clock, Clock.elapsedAt_afterReads, dueAt_afterReads,
      Nat.add_comm 1] at due earlier
    exact ⟨n + 1, opened, delivery, awaited, due, Nat.forall_lt_succ_left.mpr ⟨early, earlier⟩, rfl,
      by rw [afterReads_afterReads, Nat.add_comm 1]⟩

theorem waitForFrame_of_awaited_none {radio : Radio P} (nothing : radio.awaited = none)
    (polls : Nat) : waitForFrame polls radio = ⟨none, 0, radio.afterReads polls⟩ := by
  induction polls generalizing radio with
  | zero => rw [waitForFrame, afterReads_zero]
  | succ polls ih =>
    have asked : radio.rxReady = (false, radio.afterReads 1) := by
      rw [rxReady_eq, nothing, afterRead_eq]
    have rest : waitForFrame polls (radio.afterReads 1) = _ := ih nothing
    simp [waitForFrame, asked, rest, Nat.add_comm 1]

private theorem rounds_mul (n k step : Nat) :
    (2 * n + k) * step = n * (2 * step) + k * step := by
  rw [Nat.add_mul, Nat.mul_comm 2 n, Nat.mul_assoc]

private theorem open_rounds_le {radio : Radio P} {start : Tick} {span : UInt32} {n : Nat}
    (isOpen : ∀ i < n, radio.clock.elapsedAt start span (2 * i + 1) = false)
    (room : span.toNat + 2 * radio.clock.step.toNat ≤ 4294967296) :
    n * (2 * radio.clock.step.toNat) ≤ span.toNat + 2 * radio.clock.step.toNat := by
  apply Clock.vain_reads_le 1 2 room
  intro i hi
  rw [Nat.add_comm, Nat.mul_comm]
  exact isOpen i hi

/-- Listening takes no longer than its window and four steps. -/
theorem Heard.time_le {radio radio' : Radio P} {start : Tick} {span : UInt32}
    {heard : Option RxFrame} (h : Heard radio start span heard radio')
    (room : span.toNat + 2 * radio.clock.step.toNat ≤ 4294967296) :
    radio.clock.time ≤ radio'.clock.time ∧
      radio'.clock.time ≤ radio.clock.time + span.toNat + 4 * radio.clock.step.toNat := by
  cases h with
  | frame n opened delivery awaited due early isOpen =>
    have listening := open_rounds_le isOpen room
    simp only [deliver_clock, afterReads_clock, Clock.afterReads_time, rounds_mul]
    omega
  | silence n early closed isOpen =>
    have listening := open_rounds_le isOpen room
    simp only [idle_clock, afterReads_clock, Clock.afterReads_time, rounds_mul]
    omega

theorem Heard.completed_le {radio radio' : Radio P} {start : Tick} {span : UInt32} {frame : RxFrame}
    (h : Heard radio start span (some frame) radio')
    (fresh : ∀ opened delivery, radio.awaited = some (opened, delivery) → opened = radio.clock.now)
    (room : span.toNat + 2 * radio.clock.step.toNat < 4294967296) :
    radio.clock.time + (elapsedSince frame.timestamp radio.clock.now).toNat ≤ radio'.clock.time ∧
      radio'.clock.time ≤ radio.clock.time +
        (elapsedSince frame.timestamp radio.clock.now).toNat + 3 * radio.clock.step.toNat := by
  cases h with
  | frame n opened delivery awaited due early isOpen =>
    have listening := open_rounds_le isOpen (Nat.le_of_lt room)
    obtain rfl := fresh opened delivery awaited
    have delay : elapsedSince (completed radio.clock.now delivery).timestamp radio.clock.now =
        delivery.delay := elapsedSince_add _ _
    rw [delay]
    simp only [deliver_clock, afterReads_clock, Clock.afterReads_time, rounds_mul]
    constructor
    · have found := Clock.span_le_of_elapsedAt due
      rw [Clock.toNat_elapsedSince_now, Nat.mul_comm 2, Nat.mul_assoc] at found
      omega
    · -- The question before found the frame incomplete.
      cases n with
      | zero => omega
      | succ n =>
        have before := early n (by omega)
        simp only [dueAt_of_awaited awaited, Clock.elapsedAt, hasElapsed, decide_eq_false_iff_not,
          UInt32.le_iff_toNat_le, Clock.toNat_elapsedSince_now, Nat.mul_comm 2 n,
          Nat.mul_assoc] at before
        rw [Nat.succ_mul] at listening ⊢
        omega

/-- The end of a listening, with the polls that are over left. -/
def ListenEnds (radio : Radio P) (start : Tick) (span : UInt32) : Prop :=
  ∃ polls heard radio', radio'.clock.step = radio.clock.step ∧
    ∀ extra, listen start span (extra + polls) radio = ⟨some heard, extra, radio'⟩

private theorem listenEnds_of_delivered {radio : Radio P} {start : Tick} {span : UInt32}
    {frame : RxFrame} (yes : radio.rxReady = (true, (radio.afterReads 1).deliver frame)) :
    radio.ListenEnds start span := by
  refine ⟨1, some frame, (radio.afterReads 1).deliver frame, rfl, ?_⟩
  intro extra
  cases extra <;> simp only [listen, yes, if_true] <;> rfl

private theorem listen_round {radio : Radio P} {start : Tick} {span : UInt32} {polls : Nat}
    (no : radio.rxReady = (false, radio.afterReads 1)) :
    listen start span (polls + 2) radio =
      if radio.clock.elapsedAt start span 1 then ⟨some none, polls, (radio.afterReads 2).idle⟩
      else listen start span polls (radio.afterReads 2) := by
  rw [listen, no]
  simp only [Bool.false_eq_true, if_false, afterRead_eq, afterReads_afterReads]
  rfl

private theorem listenEnds_of_closed {radio : Radio P} {start : Tick} {span : UInt32}
    (no : radio.rxReady = (false, radio.afterReads 1))
    (closed : radio.clock.elapsedAt start span 1 = true) : radio.ListenEnds start span := by
  refine ⟨2, none, (radio.afterReads 2).idle, rfl, ?_⟩
  intro extra
  rw [listen_round no, if_pos closed]

theorem listenEnds_of_elapsedAt {radio : Radio P} {start : Tick} {span : UInt32} {n : Nat}
    (closed : radio.clock.elapsedAt start span (2 * n + 1) = true) :
    radio.ListenEnds start span := by
  induction n generalizing radio with
  | zero =>
    obtain ⟨no, -⟩ | ⟨opened, delivery, -, -, yes⟩ := radio.rxReady_cases
    · exact listenEnds_of_closed no closed
    · exact listenEnds_of_delivered yes
  | succ n ih =>
    obtain ⟨no, -⟩ | ⟨opened, delivery, -, -, yes⟩ := radio.rxReady_cases
    · by_cases now : radio.clock.elapsedAt start span 1 = true
      · exact listenEnds_of_closed no now
      · have later : (radio.afterReads 2).clock.elapsedAt start span (2 * n + 1) = true := by
          rw [afterReads_clock, Clock.elapsedAt_afterReads, ← closed]
          congr 1
          omega
        obtain ⟨polls, heard, radio', step, ends⟩ := ih later
        refine ⟨polls + 2, heard, radio', step, ?_⟩
        intro extra
        rw [← Nat.add_assoc, listen_round no, if_neg now, ends]
    · exact listenEnds_of_delivered yes

theorem listenEnds_of_dueAt {radio : Radio P} {start : Tick} {span : UInt32} {n : Nat}
    (due : radio.dueAt (2 * n) = true) : radio.ListenEnds start span := by
  induction n generalizing radio with
  | zero =>
    obtain ⟨-, early⟩ | ⟨opened, delivery, -, -, yes⟩ := radio.rxReady_cases
    · rw [Nat.mul_zero, early] at due
      cases due
    · exact listenEnds_of_delivered yes
  | succ n ih =>
    obtain ⟨no, -⟩ | ⟨opened, delivery, -, -, yes⟩ := radio.rxReady_cases
    · by_cases now : radio.clock.elapsedAt start span 1 = true
      · exact listenEnds_of_closed no now
      · have later : (radio.afterReads 2).dueAt (2 * n) = true := by
          rw [dueAt_afterReads, ← due]
          congr 1
          omega
        obtain ⟨polls, heard, radio', step, ends⟩ := ih later
        refine ⟨polls + 2, heard, radio', step, ?_⟩
        intro extra
        rw [← Nat.add_assoc, listen_round no, if_neg now, ends]
    · exact listenEnds_of_delivered yes

theorem Heard.listenEnds {radio radio' : Radio P} {start : Tick} {span : UInt32}
    {heard : Option RxFrame} (h : Heard radio start span heard radio') :
    radio.ListenEnds start span := by
  cases h with
  | frame n opened delivery awaited due =>
    rw [← dueAt_of_awaited awaited] at due
    exact listenEnds_of_dueAt due
  | silence n _ closed => exact listenEnds_of_elapsedAt closed

def WaitEnds (radio : Radio P) : Prop :=
  ∃ polls frame radio', radio'.clock.step = radio.clock.step ∧
    ∀ extra, waitForFrame (extra + polls) radio = ⟨some frame, extra, radio'⟩

private theorem waitEnds_of_delivered {radio : Radio P} {frame : RxFrame}
    (yes : radio.rxReady = (true, (radio.afterReads 1).deliver frame)) : radio.WaitEnds := by
  refine ⟨1, frame, (radio.afterReads 1).deliver frame, rfl, ?_⟩
  intro extra
  simp only [waitForFrame, yes, if_true]
  rfl

theorem waitEnds_of_dueAt {radio : Radio P} {n : Nat} (due : radio.dueAt n = true) :
    radio.WaitEnds := by
  induction n generalizing radio with
  | zero =>
    obtain ⟨-, early⟩ | ⟨opened, delivery, -, -, yes⟩ := radio.rxReady_cases
    · rw [early] at due
      cases due
    · exact waitEnds_of_delivered yes
  | succ n ih =>
    obtain ⟨no, -⟩ | ⟨opened, delivery, -, -, yes⟩ := radio.rxReady_cases
    · have later : (radio.afterReads 1).dueAt n = true := by
        rw [dueAt_afterReads, Nat.add_comm]
        exact due
      obtain ⟨polls, frame, radio', step, ends⟩ := ih later
      refine ⟨polls + 1, frame, radio', step, ?_⟩
      intro extra
      rw [← Nat.add_assoc, waitForFrame, no]
      exact ends extra
    · exact waitEnds_of_delivered yes

theorem exists_dueAt {radio : Radio P} {opened : Tick} {delivery : Delivery} (stride : Nat)
    (awaited : radio.awaited = some (opened, delivery))
    (moves : 0 < stride * radio.clock.step.toNat)
    (room : delivery.delay.toNat + stride * radio.clock.step.toNat ≤ 4294967296) :
    ∃ n, radio.dueAt (stride * n) = true := by
  obtain ⟨n, passed⟩ := Clock.exists_elapsedAt 0 stride moves room
  refine ⟨n, ?_⟩
  rw [Nat.zero_add, Nat.mul_comm] at passed
  rw [dueAt_of_awaited awaited, passed]

end Radio

end BlePeripheral

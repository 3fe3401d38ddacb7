import Mathlib.Data.List.Induction
import BlePeripheral.Air.Call
import BlePeripheral.Air.Script
import BlePeripheral.Proofs.Air.Listening

/-! What a radio answers to a sequence of calls, in any order and with any time between them. Main
statement: a frame is found only where the radio still listens for it and late enough, once for each
time that the radio began to listen, and it stays the frame of the radio until it listens again. -/

namespace BlePeripheral

/-- The answer tells that the call has found a frame. -/
def RadioCall.found : RadioCall → RadioAnswer → Bool
  | .rxReady, .flag b => b
  | .poll max, .count vain => vain < max
  | _, _ => false

def RadioEvent.isOrder : RadioEvent → Bool
  | delivered _ => false
  | _ => true

namespace Radio

variable {P : Type} [Peer P]

def after (radio : Radio P) (calls : List RadioCall) : Radio P := (radio.calls calls).2

@[simp] theorem after_nil (radio : Radio P) : radio.after [] = radio := rfl

@[simp] theorem after_cons (radio : Radio P) (c : RadioCall) (calls : List RadioCall) :
    radio.after (c :: calls) = (radio.call c).2.after calls := rfl

@[simp] theorem after_append (radio : Radio P) (calls calls' : List RadioCall) :
    radio.after (calls ++ calls') = (radio.after calls).after calls' := by
  induction calls generalizing radio with
  | nil => rfl
  | cons c calls ih => exact ih _

/-- The call leaves the radio listening if it does: it does not idle it, does not begin to listen
anew, and does not find a frame. -/
structure Keeps (radio : Radio P) (c : RadioCall) : Prop where
  noReceive : ∀ channel, c ≠ .receive channel
  noIdle : c ≠ .idle
  inVain : c.found (radio.call c).1 = false

def Quiet (radio : Radio P) : List RadioCall → Prop
  | [] => True
  | c :: calls => radio.Keeps c ∧ (radio.call c).2.Quiet calls

theorem quiet_append {radio : Radio P} {calls calls' : List RadioCall} :
    radio.Quiet (calls ++ calls') ↔ radio.Quiet calls ∧ (radio.after calls).Quiet calls' := by
  induction calls generalizing radio with
  | nil => simp [Quiet]
  | cons c calls ih => simp [Quiet, ih, and_assoc]

/-- Since a tick the radio listens for what the peer offered then: that was when it was last told to
listen, and no call since has ended it. -/
def Armed (radio : Radio P) (calls : List RadioCall) (opened : Tick) (delivery : Delivery) : Prop :=
  ∃ before channel since, calls = before ++ .receive channel :: since ∧
    opened = (radio.after before).clock.now ∧
    ((radio.after before).offer channel).1.delivery = some delivery ∧
    (radio.after (before ++ [.receive channel])).Quiet since

def entry? (radio : Radio P) : RadioCall → Option RadioEvent
  | .configure accessAddress crcInit phy => some (.configured accessAddress crcInit phy)
  | .transmit channel pdu => some (.transmitted channel pdu radio.clock.time)
  | .receive channel => some (.listened channel radio.clock.time)
  | .idle => some (.idled radio.clock.time)
  | _ => none

def entries (radio : Radio P) : List RadioCall → List RadioEvent
  | [] => []
  | c :: calls => (radio.entry? c).toList ++ (radio.call c).2.entries calls

def orders (radio : Radio P) : List RadioEvent := radio.journal.toList.filter RadioEvent.isOrder

omit [Peer P] in
theorem pollInVain_cases (radio : Radio P) (vain max : Nat) :
    pollInVain vain max radio = (vain + max, radio.afterReads max) ∨
      ∃ n opened delivery, n < max ∧ radio.awaited = some (opened, delivery) ∧
        pollInVain vain max radio =
          (vain + n, (radio.afterReads (n + 1)).deliver (completed opened delivery)) := by
  induction max generalizing radio vain with
  | zero => exact .inl (by rw [pollInVain, afterReads_zero, Nat.add_zero])
  | succ max ih =>
    rw [pollInVain]
    obtain ⟨no, -⟩ | ⟨opened, delivery, awaited, -, yes⟩ := radio.rxReady_cases
    · rw [no]
      obtain spent | ⟨n, opened, delivery, early, awaited, found⟩ := ih (radio.afterReads 1) (vain + 1)
      · refine .inl (spent.trans ?_)
        rw [afterReads_afterReads, Nat.add_right_comm, Nat.add_assoc, Nat.add_comm 1]
      · refine .inr ⟨n + 1, opened, delivery, Nat.succ_lt_succ early, awaited, found.trans ?_⟩
        rw [afterReads_afterReads, Nat.add_right_comm, Nat.add_assoc, Nat.add_comm 1]
    · rw [yes]
      exact .inr ⟨0, opened, delivery, max.succ_pos, awaited, rfl⟩

theorem call_of_found {radio : Radio P} {c : RadioCall} (h : c.found (radio.call c).1 = true) :
    ∃ opened delivery, radio.awaited = some (opened, delivery) ∧ (radio.call c).2.awaited = none ∧
      (radio.call c).2.received = some (completed opened delivery) := by
  cases c with
  | rxReady =>
    obtain ⟨no, -⟩ | ⟨opened, delivery, awaited, -, yes⟩ := radio.rxReady_cases
    · simp [RadioCall.found, call, no] at h
    · exact ⟨opened, delivery, awaited, by simp [call, yes, deliver, Radio.awaited],
        by simp [call, yes, deliver]⟩
  | poll max =>
    obtain spent | ⟨n, opened, delivery, -, awaited, found⟩ := radio.pollInVain_cases 0 max
    · simp [RadioCall.found, call, spent] at h
    · exact ⟨opened, delivery, awaited, by simp [call, found, deliver, Radio.awaited],
        by simp [call, found, deliver]⟩
  | _ => cases h

theorem Keeps.call {radio : Radio P} {c : RadioCall} (h : radio.Keeps c) :
    (radio.call c).2.awaited = radio.awaited ∧ (radio.call c).2.received = radio.received := by
  obtain ⟨noReceive, noIdle, inVain⟩ := h
  cases c with
  | receive channel => exact absurd rfl (noReceive channel)
  | idle => exact absurd rfl noIdle
  | rxReady =>
    obtain ⟨no, -⟩ | ⟨opened, delivery, -, -, yes⟩ := radio.rxReady_cases
    · simp [Radio.call, no, afterReads, Radio.awaited]
    · simp [RadioCall.found, Radio.call, yes] at inVain
  | poll max =>
    obtain spent | ⟨n, opened, delivery, early, -, found⟩ := radio.pollInVain_cases 0 max
    · simp [Radio.call, spent, afterReads, Radio.awaited]
    · simp [RadioCall.found, Radio.call, found] at inVain
      omega
  | _ => exact ⟨rfl, rfl⟩

theorem awaited_call_eq_some {radio : Radio P} {c : RadioCall} {opened : Tick}
    {delivery : Delivery} : (radio.call c).2.awaited = some (opened, delivery) ↔
      (∃ channel, c = .receive channel ∧ opened = radio.clock.now ∧
        (radio.offer channel).1.delivery = some delivery) ∨
      (radio.Keeps c ∧ radio.awaited = some (opened, delivery)) := by
  by_cases receives : ∃ channel, c = .receive channel
  · obtain ⟨channel, rfl⟩ := receives
    have offered : (radio.call (.receive channel)).2.awaited = some (opened, delivery) ↔
        opened = radio.clock.now ∧ (radio.offer channel).1.delivery = some delivery := by
      simp [call, awaited_receive, Option.map_eq_some_iff, and_comm, eq_comm (a := opened)]
    rw [offered]
    constructor
    · exact fun h => .inl ⟨channel, rfl, h⟩
    · rintro (⟨_, ⟨⟩, h⟩ | ⟨keeps, -⟩)
      · exact h
      · exact absurd rfl (keeps.noReceive channel)
  · have noReceive : ∀ channel, c ≠ .receive channel := fun channel same => receives ⟨channel, same⟩
    rw [or_iff_right (fun ⟨channel, same, _⟩ => noReceive channel same)]
    by_cases keeps : radio.Keeps c
    · rw [keeps.call.1]
      exact (and_iff_right keeps).symm
    · have none : (radio.call c).2.awaited = none := by
        by_cases idles : c = .idle
        · rw [idles]
          rfl
        · have found : c.found (radio.call c).1 = true := by
            rw [← Bool.not_eq_false]
            exact fun inVain => keeps ⟨noReceive, idles, inVain⟩
          obtain ⟨_, _, -, none, -⟩ := call_of_found found
          exact none
      simp [none, keeps]

theorem armed_concat {radio : Radio P} {calls : List RadioCall} {c : RadioCall} {opened : Tick}
    {delivery : Delivery} : radio.Armed (calls ++ [c]) opened delivery ↔
      (∃ channel, c = .receive channel ∧ opened = (radio.after calls).clock.now ∧
        ((radio.after calls).offer channel).1.delivery = some delivery) ∨
      ((radio.after calls).Keeps c ∧ radio.Armed calls opened delivery) := by
  constructor
  · rintro ⟨before, channel, since, split, now, offered, quiet⟩
    -- The last call is the one that began to listen, or it is one of those since.
    obtain rfl | ⟨since, last, rfl⟩ := since.eq_nil_or_concat
    · obtain ⟨rfl, ⟨⟩⟩ := List.append_inj' split rfl
      exact .inl ⟨channel, rfl, now, offered⟩
    · rw [List.concat_eq_append] at split quiet
      rw [← List.cons_append, ← List.append_assoc] at split
      obtain ⟨rfl, ⟨⟩⟩ := List.append_inj' split rfl
      obtain ⟨quiet, keeps, -⟩ := quiet_append.mp quiet
      rw [← after_append, List.append_assoc, List.singleton_append] at keeps
      exact .inr ⟨keeps, before, channel, since, rfl, now, offered, quiet⟩
  · rintro (⟨channel, rfl, now, offered⟩ | ⟨keeps, before, channel, since, rfl, now, offered, quiet⟩)
    · exact ⟨calls, channel, [], rfl, now, offered, trivial⟩
    · refine ⟨before, channel, since ++ [c], by simp, now, offered, ?_⟩
      rw [← List.singleton_append, ← List.append_assoc, after_append] at keeps
      exact quiet_append.mpr ⟨quiet, keeps, trivial⟩

theorem awaited_eq_some {start : Radio P} (fresh : start.awaited = none) {calls : List RadioCall}
    {opened : Tick} {delivery : Delivery} :
    (start.after calls).awaited = some (opened, delivery) ↔ start.Armed calls opened delivery := by
  induction calls using List.reverseRecOn with
  | nil => simp [fresh, Armed]
  | append_singleton calls c ih =>
    rw [armed_concat, after_append, ← ih]
    exact awaited_call_eq_some

theorem after_of_awaited_none {radio : Radio P} (settled : radio.awaited = none)
    {calls : List RadioCall} (noReceive : ∀ channel, .receive channel ∉ calls) :
    (radio.after calls).awaited = none ∧ (radio.after calls).received = radio.received := by
  induction calls generalizing radio with
  | nil => exact ⟨settled, rfl⟩
  | cons c calls ih =>
    simp only [List.mem_cons, not_or] at noReceive
    have first : (radio.call c).2.awaited = none ∧ (radio.call c).2.received = radio.received := by
      by_cases idles : c = .idle
      · rw [idles]
        exact ⟨rfl, rfl⟩
      · have inVain : c.found (radio.call c).1 = false := by
          rw [← Bool.not_eq_true]
          intro found
          obtain ⟨_, _, awaited, -⟩ := call_of_found found
          cases settled.symm.trans awaited
        have keeps : radio.Keeps c := ⟨fun channel same => (noReceive channel).1 same.symm, idles, inVain⟩
        rw [keeps.call.1, keeps.call.2]
        exact ⟨settled, rfl⟩
    obtain ⟨none, same⟩ := ih first.1 fun channel => (noReceive channel).2
    exact ⟨none, same.trans first.2⟩

theorem rxReady_call_eq_true {radio : Radio P} : (radio.call .rxReady).1 = .flag true ↔
    ∃ opened delivery, radio.awaited = some (opened, delivery) ∧
      hasElapsed radio.clock.now opened delivery.delay = true := by
  have answer : (radio.call .rxReady).1 = .flag radio.rxReady.1 := rfl
  rw [answer, RadioAnswer.flag.injEq]
  obtain ⟨no, early⟩ | ⟨opened, delivery, awaited, due, yes⟩ := radio.rxReady_cases
  · refine iff_of_false (by rw [no]; nofun) ?_
    rintro ⟨opened, delivery, awaited, due⟩
    rw [dueAt_of_awaited awaited, Clock.elapsedAt, Clock.afterReads_zero, due] at early
    cases early
  · rw [Clock.elapsedAt, Clock.afterReads_zero] at due
    exact iff_of_true (by rw [yes]) ⟨opened, delivery, awaited, due⟩

theorem orders_call {radio : Radio P} {c : RadioCall} (kept : c ≠ .clearJournal) :
    (radio.call c).2.orders = radio.orders ++ (radio.entry? c).toList := by
  have delivered : ∀ (n : Nat) (frame : RxFrame),
      ((radio.afterReads n).deliver frame).orders = radio.orders := by
    intro n frame
    simp [orders, RadioEvent.isOrder]
  cases c with
  | clearJournal => exact absurd rfl kept
  | rxReady =>
    obtain ⟨no, -⟩ | ⟨opened, delivery, -, -, yes⟩ := radio.rxReady_cases
    · simp [call, no, entry?, orders]
    · simp [call, yes, entry?, delivered]
  | poll max =>
    obtain spent | ⟨n, opened, delivery, -, -, found⟩ := radio.pollInVain_cases 0 max
    · simp [call, spent, entry?, orders]
    · simp [call, found, entry?, delivered]
  | configure => simp [call, entry?, orders, RadioEvent.isOrder]
  | transmit => simp [call, entry?, orders, RadioEvent.isOrder]
  | receive => simp [call, entry?, orders, RadioEvent.isOrder]
  | idle => simp [call, entry?, orders, RadioEvent.isOrder]
  | _ => simp [call, entry?, orders, afterRead]

theorem orders_after {radio : Radio P} {calls : List RadioCall} (kept : .clearJournal ∉ calls) :
    (radio.after calls).orders = radio.orders ++ radio.entries calls := by
  induction calls generalizing radio with
  | nil => simp [entries]
  | cons c calls ih =>
    obtain ⟨first, others⟩ := not_or.mp (mt List.mem_cons.mpr kept)
    rw [after_cons, ih others, orders_call (Ne.symm first), entries, List.append_assoc]

def unused (clock : Clock) (peer : P) : Radio P := { clock, peer }

/-- A radio that is asked for a frame has one if it still listens for what the peer offered, and that
is due. When a call has found a frame, this is the frame until the radio listens again, and no other
is found before that. The journal is of the calls that told the radio to do something, in their
order. -/
theorem delivers_each_offer_once (clock : Clock) (peer : P) :
    (∀ calls, (((unused clock peer).after calls).call .rxReady).1 = .flag true ↔
      ∃ opened delivery, (unused clock peer).Armed calls opened delivery ∧
        hasElapsed ((unused clock peer).after calls).clock.now opened delivery.delay = true) ∧
    (∀ calls c later, c.found (((unused clock peer).after calls).call c).1 = true →
      (∀ channel, .receive channel ∉ later) →
        ∃ opened delivery, (unused clock peer).Armed calls opened delivery ∧
          (((unused clock peer).after (calls ++ c :: later)).call .frame).1 =
            .frame ⟨delivery.bytes, opened + delivery.delay⟩ ∧
          (((unused clock peer).after (calls ++ c :: later)).call .rxReady).1 = .flag false) ∧
    ∀ calls, .clearJournal ∉ calls →
      ((unused clock peer).after calls).journal.toList.filter RadioEvent.isOrder =
        (unused clock peer).entries calls := by
  have fresh : (unused clock peer).awaited = none := rfl
  refine ⟨?_, ?_, ?_⟩
  · intro calls
    simp only [rxReady_call_eq_true, awaited_eq_some fresh]
  · intro calls c later found noReceive
    obtain ⟨opened, delivery, awaited, none, received⟩ := call_of_found found
    obtain ⟨still, same⟩ := after_of_awaited_none none noReceive
    rw [after_append, after_cons]
    refine ⟨opened, delivery, (awaited_eq_some fresh).mp awaited, ?_, ?_⟩
    · show RadioAnswer.frame (frame _) = _
      rw [frame, same, received]
      rfl
    · show RadioAnswer.flag (rxReady _).1 = _
      rw [rxReady_eq, still]
  · intro calls kept
    exact (orders_after kept).trans (List.nil_append _)

/-- What is offered first comes to nothing, for the radio is idled. The second offer is the frame. -/
theorem delivers_each_offer_once_of_second :
    let radio := unused ⟨100, 1⟩ ({ script := [some ⟨5, [1]⟩, some ⟨6, [2]⟩] } : RecordingPeer)
    let calls := [.receive 37, .idle, .receive 38, .poll 4, .advance 5]
    ∃ opened delivery, radio.Armed calls opened delivery ∧ delivery.bytes = [2] ∧
      opened + delivery.delay = 106 ∧
      ((radio.after (calls ++ .rxReady :: [.idle])).call .rxReady).1 = .flag false := by
  intro radio calls
  have found : RadioCall.rxReady.found ((radio.after calls).call .rxReady).1 = true := by decide
  obtain ⟨opened, delivery, armed, frame, none⟩ :=
    (delivers_each_offer_once ⟨100, 1⟩ radio.peer).2.1 calls .rxReady [.idle] found (by simp)
  have second : (radio.after (calls ++ .rxReady :: [.idle])).frame = ⟨[2], 106⟩ := by decide
  obtain ⟨bytes, timestamp⟩ := RxFrame.mk.inj ((RadioAnswer.frame.inj frame).symm.trans second)
  exact ⟨opened, delivery, armed, bytes, timestamp, none⟩

end Radio

end BlePeripheral

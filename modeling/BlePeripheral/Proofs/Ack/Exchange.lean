import BlePeripheral.Link.Ack
import BlePeripheral.Pdu.Frame
import Mathlib.Data.Nat.Bits

/-! Two endpoints that exchange PDUs over a lossy link. The one-bit sequence numbers are the
parities of two counts, the PDUs a sender has moved past and the payloads its peer has taken,
and these counts never differ by more than one. `exchange_in_order` is what follows for every
run: nothing is lost, nothing is taken twice and nothing is taken out of order. -/

namespace BlePeripheral

def AckState.stamp (ack : AckState) (header : DataHeader) : DataHeader :=
  (header.withSn ack.transmitSeq).withNesn ack.nextExpected

@[simp] theorem AckState.sn_stamp (ack : AckState) (header : DataHeader) :
    (ack.stamp header).sn = ack.transmitSeq := by
  simp [stamp]

@[simp] theorem AckState.nesn_stamp (ack : AckState) (header : DataHeader) :
    (ack.stamp header).nesn = ack.nextExpected := by
  simp [stamp]

theorem AckState.header_eq_stamp (ack : AckState) (llid : Llid) :
    ack.header llid = ack.stamp (({} : DataHeader).withLlidCode llid.code) :=
  rfl

theorem AckState.llid_header (ack : AckState) (llid : Llid) : (ack.header llid).llid = llid := by
  obtain ⟨transmitSeq, nextExpected⟩ := ack
  cases transmitSeq <;> cases nextExpected <;> cases llid <;> decide

/-- One side of a connection: its sequence numbers, how many of its own PDUs it has moved past,
and the payloads it has taken from the other side. -/
structure Endpoint where
  ack : AckState := {}
  moved : Nat := 0
  taken : List Bytes := []

namespace Endpoint

def pdu (e : Endpoint) (offers : Nat → DataPdu) : DataPdu where
  header := e.ack.stamp (offers e.moved).header
  payload := (offers e.moved).payload

/-- Takes the payload of a new PDU, and moves on when its own PDU is acknowledged. -/
def receive (e : Endpoint) (pdu : DataPdu) : Endpoint :=
  let ack := e.ack.afterReceive pdu.header
  { ack
    moved := if ack.transmitSeq = e.ack.transmitSeq then e.moved else e.moved + 1
    taken := if e.ack.isNew pdu.header then e.taken ++ [pdu.payload] else e.taken }

end Endpoint

inductive Fate where
  | lost
  | replyLost
  | answered

structure Exchange where
  a : Endpoint := {}
  b : Endpoint := {}

namespace Exchange

def event (aOffers bOffers : Nat → DataPdu) (x : Exchange) (fate : Fate) : Exchange :=
  let b := x.b.receive (x.a.pdu aOffers)
  match fate with
  | .lost => x
  | .replyLost => { x with b }
  | .answered => { a := x.a.receive (b.pdu bOffers), b }

def run (aOffers bOffers : Nat → DataPdu) (fates : List Fate) : Exchange :=
  fates.foldl (event aOffers bOffers) {}

def payloads (offers : Nat → DataPdu) (m : Nat) : List Bytes :=
  (List.range m).map fun i => (offers i).payload

@[simp] theorem payloads_succ (offers : Nat → DataPdu) (m : Nat) :
    payloads offers (m + 1) = payloads offers m ++ [(offers m).payload] := by
  simp [payloads, List.range_succ]

/-- What the sequence numbers of one direction stand for, the receiver having taken `m`
payloads. The sender is at most one acknowledgment behind. -/
structure Delivers (offers : Nat → DataPdu) (sender receiver : Endpoint) (m : Nat) : Prop where
  taken : receiver.taken = payloads offers m
  transmitSeq : sender.ack.transmitSeq = sender.moved.bodd
  nextExpected : receiver.ack.nextExpected = m.bodd
  moved : m = sender.moved ∨ m = sender.moved + 1

theorem Delivers.forward {offers : Nat → DataPdu} {sender receiver : Endpoint} {m : Nat}
    (h : Delivers offers sender receiver m) :
    ∃ m', Delivers offers sender (receiver.receive (sender.pdu offers)) m' := by
  have new : receiver.ack.isNew (sender.pdu offers).header = (sender.moved.bodd == m.bodd) := by
    simp [AckState.isNew, Endpoint.pdu, h.transmitSeq, h.nextExpected]
  obtain due | behind := h.moved
  · have new : receiver.ack.isNew (sender.pdu offers).header = true := by
      rw [new, due]
      exact beq_self_eq_true _
    have current : (sender.pdu offers).payload = (offers m).payload := by rw [due]; rfl
    refine ⟨m + 1, ?_, h.transmitSeq, ?_, .inr (by rw [due])⟩
    · simp [Endpoint.receive, new, h.taken, current]
    · simp [Endpoint.receive, AckState.afterReceive, new, h.nextExpected]
  · have old : receiver.ack.isNew (sender.pdu offers).header = false := by
      rw [new, behind]
      simp
    refine ⟨m, ?_, h.transmitSeq, ?_, .inr behind⟩
    · simp [Endpoint.receive, old, h.taken]
    · simp [Endpoint.receive, AckState.afterReceive, old, h.nextExpected]

/-- The same receipt acknowledges: in the other direction the receiver of the PDU is the
sender, and it moves on exactly when it was one behind. -/
theorem Delivers.backward {offers : Nat → DataPdu} {sender receiver : Endpoint} {m : Nat}
    (other : Nat → DataPdu) (h : Delivers other receiver sender m) :
    Delivers other (receiver.receive (sender.pdu offers)) sender m := by
  have nesn : (sender.pdu offers).header.nesn = m.bodd := by
    simp [Endpoint.pdu, h.nextExpected]
  obtain same | behind := h.moved
  · have kept : (receiver.ack.afterReceive (sender.pdu offers).header).transmitSeq =
        receiver.ack.transmitSeq := by
      simp [AckState.afterReceive, nesn, h.transmitSeq, same]
    refine ⟨h.taken, ?_, h.nextExpected, .inl ?_⟩
    · simp [Endpoint.receive, kept, h.transmitSeq]
    · simp [Endpoint.receive, kept, same]
  · have flipped : (receiver.ack.afterReceive (sender.pdu offers).header).transmitSeq =
        !receiver.ack.transmitSeq := by
      simp [AckState.afterReceive, nesn, h.transmitSeq, behind]
    refine ⟨h.taken, ?_, h.nextExpected, .inl ?_⟩
    · simp [Endpoint.receive, flipped, h.transmitSeq]
    · simp [Endpoint.receive, flipped, behind]

def InStep (aOffers bOffers : Nat → DataPdu) (x : Exchange) : Prop :=
  (∃ m, Delivers aOffers x.a x.b m) ∧ ∃ m, Delivers bOffers x.b x.a m

theorem event_inStep {aOffers bOffers : Nat → DataPdu} {x : Exchange} (fate : Fate)
    (h : InStep aOffers bOffers x) : InStep aOffers bOffers (x.event aOffers bOffers fate) := by
  obtain ⟨⟨m, hab⟩, n, hba⟩ := h
  obtain ⟨m', hab'⟩ := hab.forward
  have hba' : Delivers bOffers (x.b.receive (x.a.pdu aOffers)) x.a n := hba.backward
  cases fate with
  | lost => exact ⟨⟨m, hab⟩, n, hba⟩
  | replyLost => exact ⟨⟨m', hab'⟩, n, hba'⟩
  | answered =>
    -- The reply is the same receipt with the roles exchanged.
    obtain ⟨n', hba''⟩ := hba'.forward
    exact ⟨⟨m', hab'.backward⟩, n', hba''⟩

theorem run_inStep (aOffers bOffers : Nat → DataPdu) (fates : List Fate) :
    InStep aOffers bOffers (run aOffers bOffers fates) := by
  have start : InStep aOffers bOffers {} :=
    ⟨⟨0, rfl, rfl, rfl, .inl rfl⟩, 0, rfl, rfl, rfl, .inl rfl⟩
  suffices ∀ x, InStep aOffers bOffers x →
      InStep aOffers bOffers (fates.foldl (event aOffers bOffers) x) from this _ start
  induction fates with
  | nil => exact fun _ h => h
  | cons fate rest ih => exact fun x h => ih _ (event_inStep fate h)

/-- Whatever is lost, each side has taken exactly the first payloads of the other, in order and
once each: as many as the other has moved past, or one more. -/
theorem exchange_in_order (aOffers bOffers : Nat → DataPdu) (fates : List Fate) :
    let x := run aOffers bOffers fates
    (∃ m, (m = x.a.moved ∨ m = x.a.moved + 1) ∧ x.b.taken = payloads aOffers m) ∧
      ∃ m, (m = x.b.moved ∨ m = x.b.moved + 1) ∧ x.a.taken = payloads bOffers m := by
  obtain ⟨⟨m, hab⟩, n, hba⟩ := run_inStep aOffers bOffers fates
  exact ⟨⟨m, hab.moved, hab.taken⟩, n, hba.moved, hba.taken⟩

end Exchange

end BlePeripheral

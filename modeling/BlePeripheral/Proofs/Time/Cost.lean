import Mathlib.Algebra.Order.Floor.Div
import BlePeripheral.Proofs.Time.Reads

/-! What a wait costs. Its first reading tells how much of the span is left, and each further one
takes a step off that. So the number of readings is known from the first of them, and the last one
comes less than a step too late, if the counter has room for a step past the span. -/

namespace BlePeripheral

namespace Clock

variable {clock : Clock} {start : Tick} {span : UInt32} {i : Nat}

/-- How many readings of a wait are in vain: one for each step, the last of which need not be a
whole one, in what is left of the span at the first. -/
def vainReads (clock : Clock) (start : Tick) (span : UInt32) : Nat :=
  (span.toNat - (elapsedSince clock.now start).toNat) ⌈/⌉ clock.step.toNat

/-- The reading after `n` others is the one in time: up to it the elapsed ticks only grow, and it
shows the span passed, by less than a step. -/
structure InTime (clock : Clock) (start : Tick) (span : UInt32) (n : Nat) : Prop where
  unwrapped : ∀ i ≤ n, (elapsedSince (clock.afterReads i).now start).toNat =
    (elapsedSince clock.now start).toNat + i * clock.step.toNat
  passed : span.toNat ≤ (elapsedSince (clock.afterReads n).now start).toNat
  justPassed : (elapsedSince (clock.afterReads n).now start).toNat <
    span.toNat + clock.step.toNat

section

variable (moves : 0 < clock.step.toNat)

include moves

theorem vainReads_le_iff : clock.vainReads start span ≤ i ↔
    span.toNat ≤ (elapsedSince clock.now start).toNat + i * clock.step.toNat := by
  rw [vainReads, ceilDiv_le_iff_le_mul moves, Nat.sub_le_iff_le_add', Nat.mul_comm]

theorem lt_vainReads_iff : i < clock.vainReads start span ↔
    (elapsedSince clock.now start).toNat + i * clock.step.toNat < span.toNat := by
  rw [← Nat.not_le, vainReads_le_iff moves, Nat.not_le]

theorem next_of_lt_vainReads (vain : i < clock.vainReads start span) :
    (elapsedSince clock.now start).toNat + (i + 1) * clock.step.toNat <
      span.toNat + clock.step.toNat := by
  rw [Nat.succ_mul, ← Nat.add_assoc]
  exact Nat.add_lt_add_right ((lt_vainReads_iff moves).mp vain) _

variable (room : span.toNat + clock.step.toNat ≤ 4294967296)

include room

theorem toNat_elapsedSince_of_le_vainReads (early : i ≤ clock.vainReads start span) :
    (elapsedSince (clock.afterReads i).now start).toNat =
      (elapsedSince clock.now start).toNat + i * clock.step.toNat := by
  rw [toNat_elapsedSince_later]
  apply Nat.mod_eq_of_lt
  cases i with
  | zero => simpa using (elapsedSince clock.now start).toNat_lt
  | succ i => exact Nat.lt_of_lt_of_le (next_of_lt_vainReads moves early) room

theorem elapsedAt_vainReads : clock.elapsedAt start span (clock.vainReads start span) = true := by
  rw [elapsedAt_eq_true, toNat_elapsedSince_of_le_vainReads moves room (Nat.le_refl _),
    ← vainReads_le_iff moves]

theorem elapsedAt_of_lt_vainReads (vain : i < clock.vainReads start span) :
    clock.elapsedAt start span i = false := by
  rw [← Bool.not_eq_true, elapsedAt_eq_true,
    toNat_elapsedSince_of_le_vainReads moves room (Nat.le_of_lt vain), Nat.not_le]
  exact (lt_vainReads_iff moves).mp vain

theorem waitTakes_vainReads : clock.WaitTakes start span (clock.vainReads start span + 1) := by
  apply waitTakes_of_first (elapsedAt_vainReads moves room)
  intro i vain
  exact elapsedAt_of_lt_vainReads moves room vain

theorem inTime_vainReads (early : (elapsedSince clock.now start).toNat < span.toNat) :
    clock.InTime start span (clock.vainReads start span) := by
  have unwrapped {i : Nat} (le : i ≤ clock.vainReads start span) :=
    toNat_elapsedSince_of_le_vainReads moves room le
  -- There is a reading in vain before, and the last of them bounds how late this one is.
  have first : 0 < clock.vainReads start span := by simpa [lt_vainReads_iff moves] using early
  obtain ⟨n, last⟩ := Nat.exists_eq_add_of_lt first
  refine ⟨fun i le => unwrapped le, elapsedAt_eq_true.mp (elapsedAt_vainReads moves room), ?_⟩
  rw [unwrapped (Nat.le_refl _), last, Nat.zero_add]
  exact next_of_lt_vainReads moves (by omega)

end

/-- The cost of a wait, exactly. If its first reading finds the span passed it makes no other.
Otherwise it makes as many more as it takes steps to cover what is left of the span, stops at one
that is in time, and leaves the clock a step beyond that. -/
theorem wait_cost_exact (clock : Clock) (start : Tick) (span : UInt32)
    (moves : 0 < clock.step.toNat) (room : span.toNat + clock.step.toNat ≤ 4294967296) :
    (span.toNat ≤ (elapsedSince clock.now start).toNat → clock.WaitTakes start span 1) ∧
    ((elapsedSince clock.now start).toNat < span.toNat → ∃ n,
      n = (span.toNat - (elapsedSince clock.now start).toNat) ⌈/⌉ clock.step.toNat ∧
      clock.WaitTakes start span (1 + n) ∧ clock.InTime start span n ∧
      (clock.afterReads (1 + n)).now = (clock.afterReads n).now + clock.step) := by
  have takes : clock.WaitTakes start span (clock.vainReads start span + 1) :=
    waitTakes_vainReads moves room
  constructor
  · intro late
    have first : clock.vainReads start span = 0 := by
      apply Nat.le_zero.mp
      simpa [vainReads_le_iff moves] using late
    rwa [first] at takes
  · intro early
    refine ⟨clock.vainReads start span, rfl, ?_, inTime_vainReads moves room early, ?_⟩
    · rwa [Nat.add_comm]
    · rw [Nat.add_comm, ← afterReads_afterReads, ← afterRead_eq, now_afterRead, afterReads_step]

/-- The longest span that a step of 7 leaves room for, of which 9 ticks are left at the first reading.
The counter wraps on the way, the elapsed ticks do not. -/
theorem wait_cost_exact_across_wrap : ∃ clock : Clock, clock.step = 7 ∧ clock.now = 4294967290 ∧
    clock.WaitTakes 10 4294967289 3 ∧ clock.InTime 10 4294967289 2 ∧
    (elapsedSince (clock.afterReads 2).now 10).toNat = 4294967294 ∧ (clock.afterReads 3).now = 15 ∧
    clock.WaitTakes 10 4294967280 1 := by
  have longest := wait_cost_exact ⟨4294967290, 7⟩ 10 4294967289 (by decide) (by decide)
  have passed := wait_cost_exact ⟨4294967290, 7⟩ 10 4294967280 (by decide) (by decide)
  obtain ⟨n, readings, takes, inTime, -⟩ := longest.2 (by decide)
  obtain rfl : n = 2 := readings
  exact ⟨⟨4294967290, 7⟩, rfl, rfl, takes, inTime, by decide, by decide, passed.1 (by decide)⟩

end Clock

end BlePeripheral

import Mathlib.Data.Int.GCD
import Mathlib.Data.Nat.ModEq
import Mathlib.Tactic.Ring
import BlePeripheral.Proofs.Time.Reads

/-! Where the multiples of an interval lie on the round of the tick counter. They are as dense
there as the greatest common divisor of the interval and the length of the round, so they come
within that of every tick. -/

namespace BlePeripheral

namespace Time

theorem exists_mul_modEq {interval round : Nat} (proper : Nat.gcd interval round < round) (t : Nat) :
    ∃ k, 0 < k ∧ k * interval ≡ t * Nat.gcd interval round [MOD round] := by
  obtain ⟨m, -, reached⟩ := Nat.exists_mul_mod_eq_gcd proper
  have unit : interval * m ≡ Nat.gcd interval round [MOD round] := by
    rw [Nat.ModEq, reached, Nat.mod_eq_of_lt proper]
  refine ⟨m * t + round, by omega, ?_⟩
  calc (m * t + round) * interval = t * (interval * m) + round * interval := by ring
    _ ≡ t * (interval * m) [MOD round] := by simp [Nat.ModEq]
    _ ≡ t * Nat.gcd interval round [MOD round] := unit.mul_left t

theorem exists_between_modEq {g : Nat} (pos : 0 < g) (low offset : Nat) :
    ∃ x, low ≤ x ∧ x < low + g ∧ x ≡ offset [MOD g] := by
  refine ⟨low + (offset + (g - low % g)) % g, by omega, ?_, ?_⟩
  · have := Nat.mod_lt (offset + (g - low % g)) pos
    omega
  · have below := Nat.mod_lt low pos
    calc low + (offset + (g - low % g)) % g
        ≡ low % g + (offset + (g - low % g)) [MOD g] :=
          (Nat.mod_modEq low g).symm.add (Nat.mod_modEq _ g)
      _ = offset + g := by omega
      _ ≡ offset [MOD g] := by simp [Nat.ModEq]

/-- Counted from an offset, the multiples of the interval come within the greatest common divisor
after every tick that leaves room for that in the round. -/
theorem exists_mul_add_mod_between {interval round low : Nat} (offset : Nat)
    (proper : Nat.gcd interval round < round) (room : low + Nat.gcd interval round ≤ round) :
    ∃ k, 0 < k ∧ low ≤ (k * interval + offset) % round ∧
      (k * interval + offset) % round < low + Nat.gcd interval round := by
  have positive : 0 < round := Nat.zero_lt_of_lt proper
  have below := Nat.mod_lt offset positive
  have divides : Nat.gcd interval round ∣ round := Nat.gcd_dvd_right interval round
  obtain ⟨x, least, most, same⟩ :=
    exists_between_modEq (Nat.gcd_pos_of_pos_right interval positive) low offset
  -- The way from the offset to `x` is a multiple of the greatest common divisor.
  have way : Nat.gcd interval round ∣ x + (round - offset % round) := by
    apply Nat.modEq_zero_iff_dvd.mp
    calc x + (round - offset % round)
        ≡ offset % round + (round - offset % round) [MOD Nat.gcd interval round] :=
          (same.trans ((Nat.mod_modEq offset round).of_dvd divides).symm).add_right _
      _ = round := by omega
      _ ≡ 0 [MOD Nat.gcd interval round] := Nat.modEq_zero_iff_dvd.mpr divides
  obtain ⟨t, way⟩ := way
  obtain ⟨k, pos, reached⟩ := exists_mul_modEq proper t
  have lands : k * interval + offset ≡ x [MOD round] := by
    calc k * interval + offset
        ≡ (x + (round - offset % round)) + offset % round [MOD round] := by
          rw [way, Nat.mul_comm _ t]
          exact reached.add (Nat.mod_modEq offset round).symm
      _ = x + round := by omega
      _ ≡ x [MOD round] := by simp [Nat.ModEq]
  rw [Nat.ModEq, Nat.mod_eq_of_lt (by omega : x < round)] at lands
  exact ⟨k, pos, by omega, by omega⟩

end Time

end BlePeripheral

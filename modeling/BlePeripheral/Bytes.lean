/-! Byte strings and the little-endian numbers in them. Every number on the air is
least significant byte first, so the field codecs all rest on the two conversions here. -/

namespace BlePeripheral

abbrev Bytes := List UInt8

namespace Bytes

def toNatLE : Bytes → Nat
  | [] => 0
  | b :: rest => b.toNat + 256 * toNatLE rest

def ofNatLE : (size n : Nat) → Bytes
  | 0, _ => []
  | size + 1, n => UInt8.ofNat n :: ofNatLE size (n / 256)

/-- The `size` bytes from `offset` on, fewer if the string ends before. -/
def slice (b : Bytes) (offset size : Nat) : Bytes := (b.drop offset).take size

def natAt (b : Bytes) (offset size : Nat) : Nat := toNatLE (slice b offset size)

def capacity : (size : Nat) → Nat
  | 0 => 1
  | size + 1 => 256 * capacity size

@[simp] theorem length_ofNatLE (size n : Nat) : (ofNatLE size n).length = size := by
  induction size generalizing n with
  | zero => rfl
  | succ size ih => simp [ofNatLE, ih]

@[simp] theorem length_slice (b : Bytes) (offset size : Nat) :
    (slice b offset size).length = min size (b.length - offset) := by
  simp [slice]

theorem slice_take (b : Bytes) {offset size n : Nat} (h : offset + size ≤ n) :
    slice (b.take n) offset size = slice b offset size := by
  simp only [slice, List.drop_take, List.take_take]
  rw [Nat.min_eq_left (by omega)]

theorem natAt_take (b : Bytes) {offset size n : Nat} (h : offset + size ≤ n) :
    natAt (b.take n) offset size = natAt b offset size := by
  rw [natAt, slice_take b h, natAt]

theorem toNatLE_lt (b : Bytes) : toNatLE b < capacity b.length := by
  induction b with
  | nil => exact Nat.zero_lt_one
  | cons x rest ih =>
    have hx := x.toNat_lt
    simp only [toNatLE, List.length_cons, capacity]
    omega

theorem ofNatLE_toNatLE (b : Bytes) : ofNatLE b.length (toNatLE b) = b := by
  induction b with
  | nil => rfl
  | cons x rest ih =>
    have hx := x.toNat_lt
    have low : UInt8.ofNat (x.toNat + 256 * toNatLE rest) = x := by
      apply UInt8.toNat_inj.mp
      simp only [UInt8.toNat_ofNat']
      omega
    have high : (x.toNat + 256 * toNatLE rest) / 256 = toNatLE rest := by omega
    simp only [toNatLE, List.length_cons, ofNatLE, low, high, ih]

theorem toNatLE_ofNatLE (size n : Nat) : toNatLE (ofNatLE size n) = n % capacity size := by
  induction size generalizing n with
  | zero => simp [ofNatLE, toNatLE, capacity, Nat.mod_one]
  | succ size ih =>
    -- Dividing by a product leaves the low byte and, above it, the rest of the quotient.
    have peel : n % capacity (size + 1) = n % 256 + 256 * (n / 256 % capacity size) :=
      Nat.mod_mul
    simp only [ofNatLE, toNatLE, ih, UInt8.toNat_ofNat']
    exact peel.symm

end Bytes

end BlePeripheral

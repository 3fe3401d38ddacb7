import Mathlib.Data.Nat.Bitwise
import BlePeripheral.Proofs.Channel.Hops

/-! A channel map as a word, which is how it is given back and told apart: a bit for each channel
in use, and nothing behind the mask. All that a map tells can be read from its word. -/

namespace BlePeripheral

namespace ChannelMap

def bit (c : UInt8) : UInt64 := 1 <<< c.toUInt64

/-- The word has no bits but those of channels, and the channels in use are those of its bits. -/
structure HeldIn (m : ChannelMap) (word : UInt64) : Prop where
  masked : word &&& mask = word
  isUsed_eq : ∀ c : UInt8,
    m.isUsed c = (decide (c < 37) && decide (word &&& bit c ≠ 0))
  channels_eq : m.channels = ((List.range 37).map UInt8.ofNat).filter m.isUsed
  count_eq : m.count = (List.range 64).countP word.toNat.testBit
  toBytes_eq : m.toBytes = (Bytes.ofNatLE 8 word.toNat).take 5

theorem toNat_toUInt64 (m : ChannelMap) : m.toUInt64.toNat = m.bits.toNat := by
  rw [toUInt64, UInt64.toNat_ofNat']
  exact Nat.mod_eq_of_lt (Nat.lt_trans m.bits.isLt (by decide))

theorem testBit_toUInt64 (m : ChannelMap) (i : Nat) :
    m.toUInt64.toNat.testBit i = m.bits.getLsbD i := by
  rw [toNat_toUInt64, BitVec.testBit_toNat]

theorem toNat_and_mask (n : UInt64) : (n &&& mask).toNat = n.toNat % 2 ^ 37 := by
  rw [UInt64.toNat_and]
  exact Nat.and_two_pow_sub_one_eq_mod n.toNat 37

theorem toUInt64_ofUInt64 (n : UInt64) : (ofUInt64 n).toUInt64 = n &&& mask := by
  apply UInt64.toNat_inj.mp
  rw [toNat_and_mask, toNat_toUInt64, ofUInt64, BitVec.toNat_ofNat]

theorem toUInt64_ofBytes (bytes : Bytes) :
    (ofBytes bytes).toUInt64 = UInt64.ofNat (Bytes.toNatLE bytes) &&& mask := by
  apply UInt64.toNat_inj.mp
  rw [toNat_and_mask, toNat_toUInt64, ofBytes, BitVec.toNat_ofNat, UInt64.toNat_ofNat']
  omega

theorem toNat_bit {c : UInt8} (low : c.toNat < 64) :
    (bit c).toNat = 2 ^ c.toNat := by
  rw [bit, UInt64.toNat_shiftLeft, UInt64.toNat_one, UInt8.toNat_toUInt64, Nat.mod_eq_of_lt low,
    Nat.one_shiftLeft]
  exact Nat.mod_eq_of_lt (Nat.pow_lt_pow_right (by decide) low)

theorem and_bit_ne_zero (word : UInt64) {c : UInt8} (low : c.toNat < 64) :
    word &&& bit c ≠ 0 ↔ word.toNat.testBit c.toNat = true := by
  rw [ne_eq, ← UInt64.toNat_inj, UInt64.toNat_and, toNat_bit low, Nat.and_two_pow]
  cases word.toNat.testBit c.toNat <;> simp

theorem toUInt64_marked (bits : BitVec 37) (c : UInt8) :
    toUInt64 ⟨bits ||| 1#37 <<< c.toNat⟩ =
      if c < 37 then toUInt64 ⟨bits⟩ ||| bit c else toUInt64 ⟨bits⟩ := by
  apply UInt64.toNat_inj.mp
  by_cases low : c.toNat < 37
  · have marks : (1#37 <<< c.toNat).toNat = 2 ^ c.toNat := by
      rw [BitVec.toNat_shiftLeft, BitVec.toNat_one (by decide), Nat.one_shiftLeft]
      exact Nat.mod_eq_of_lt (Nat.pow_lt_pow_right (by decide) low)
    rw [if_pos (UInt8.lt_iff_toNat_lt.mpr low), UInt64.toNat_or, toNat_toUInt64, toNat_toUInt64,
      toNat_bit (by omega), BitVec.toNat_or, marks]
  · rw [if_neg (mt UInt8.lt_iff_toNat_lt.mp low), BitVec.shiftLeft_eq_zero (Nat.le_of_not_lt low),
      BitVec.or_zero]

theorem toUInt64_ofChannels (channels : List UInt8) :
    (ofChannels channels).toUInt64 =
      (channels.filter (· < 37)).foldl (fun word c => word ||| bit c) 0 := by
  -- The word is marked along with the bits, from any bits on.
  have marked (bits : BitVec 37) :
      toUInt64 ⟨channels.foldl (fun bits c => bits ||| 1#37 <<< c.toNat) bits⟩ =
        (channels.filter (· < 37)).foldl (fun word c => word ||| bit c)
          (toUInt64 ⟨bits⟩) := by
    induction channels generalizing bits with
    | nil => rfl
    | cons c channels ih =>
      rw [List.foldl_cons, ih, toUInt64_marked, List.filter_cons]
      by_cases low : c < 37 <;> simp [low]
  exact marked 0

theorem isUsed_eq (m : ChannelMap) (c : UInt8) :
    m.isUsed c = (decide (c < 37) && decide (m.toUInt64 &&& bit c ≠ 0)) := by
  by_cases low : c.toNat < 37
  · have bit := and_bit_ne_zero m.toUInt64 (show c.toNat < 64 by omega)
    rw [testBit_toUInt64] at bit
    have first : c < 37 := UInt8.lt_iff_toNat_lt.mpr low
    simp only [first, bit, isUsed]
    simp
  · have past : ¬ c < 37 := mt UInt8.lt_iff_toNat_lt.mp low
    rw [isUsed, BitVec.getLsbD_of_ge m.bits _ (Nat.le_of_not_lt low)]
    simp [past]

theorem count_eq (m : ChannelMap) :
    m.count = (List.range 64).countP m.toUInt64.toNat.testBit := by
  have split : List.range 64 = List.range 37 ++ List.range' 37 27 := by decide
  have low : m.toUInt64.toNat.testBit = m.bits.getLsbD := funext m.testBit_toUInt64
  have high : (List.range' 37 27).countP m.bits.getLsbD = 0 := by
    apply List.countP_eq_zero.mpr
    intro i member
    have past := (List.mem_range'_1.mp member).1
    simp [BitVec.getLsbD_of_ge m.bits i past]
  rw [low, split, List.countP_append, high]
  rfl

theorem channels_eq (m : ChannelMap) :
    m.channels = ((List.range 37).map UInt8.ofNat).filter m.isUsed := by
  rw [channels, List.filter_map]
  refine congrArg (List.map UInt8.ofNat) (List.filter_congr ?_)
  intro i member
  have low := List.mem_range.mp member
  rw [Function.comp_apply, isUsed, UInt8.toNat_ofNat', Nat.mod_eq_of_lt (by omega)]

theorem heldIn_toUInt64 (m : ChannelMap) : m.HeldIn m.toUInt64 where
  masked := by
    apply UInt64.toNat_inj.mp
    rw [toNat_and_mask, toNat_toUInt64, Nat.mod_eq_of_lt m.bits.isLt]
  isUsed_eq := m.isUsed_eq
  channels_eq := m.channels_eq
  count_eq := m.count_eq
  toBytes_eq := by
    rw [toNat_toUInt64]
    rfl

end ChannelMap

end BlePeripheral

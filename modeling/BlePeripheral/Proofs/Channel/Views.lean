import BlePeripheral.Proofs.Channel.Word

/-! A channel map as a set of channels. It is built from the bits of a word, from bytes or from a
list of channels, and given back as bytes or as a list. All of these mark the same channels: bits
past the last channel count nowhere. -/

namespace BlePeripheral

theorem Bytes.testBit_toNatLE (b : Bytes) (i : Nat) :
    (toNatLE b).testBit i = (b.getD (i / 8) 0).toNat.testBit (i % 8) := by
  induction b generalizing i with
  | nil => simp [toNatLE]
  | cons x rest ih =>
    have digit : toNatLE (x :: rest) = 2 ^ 8 * toNatLE rest + x.toNat := Nat.add_comm _ _
    rw [digit, Nat.testBit_two_pow_mul_add _ x.toNat_lt]
    by_cases low : i < 8
    · simp [low, Nat.div_eq_of_lt low, Nat.mod_eq_of_lt low]
    · have place : i / 8 = (i - 8) / 8 + 1 := by omega
      have same : i % 8 = (i - 8) % 8 := by omega
      rw [if_neg low, ih, place, same, List.getD_cons_succ]

namespace ChannelMap

theorem toNat_lt_of_isUsed {m : ChannelMap} {c : UInt8} (used : m.isUsed c = true) :
    c.toNat < 37 := by
  apply Nat.lt_of_not_le
  intro high
  rw [isUsed, BitVec.getLsbD_of_ge m.bits _ high] at used
  cases used

theorem eq_of_isUsed_iff {m m' : ChannelMap}
    (same : ∀ c, m.isUsed c = true ↔ m'.isUsed c = true) : m = m' := by
  have bits : m.bits = m'.bits := by
    apply BitVec.eq_of_getLsbD_eq
    intro i low
    have whole : (UInt8.ofNat i).toNat = i := by
      rw [UInt8.toNat_ofNat']
      omega
    have bit := same (UInt8.ofNat i)
    rw [isUsed, isUsed, whole] at bit
    exact Bool.eq_iff_iff.mpr bit
  cases m
  cases m'
  exact congrArg mk bits

theorem isUsed_ofNat (n : Nat) (c : UInt8) :
    isUsed ⟨BitVec.ofNat 37 n⟩ c = true ↔ c.toNat ≤ 36 ∧ n.testBit c.toNat = true := by
  simp [isUsed, BitVec.getLsbD_ofNat, Nat.lt_succ_iff]

theorem ofBytes_toBytes (m : ChannelMap) : ofBytes m.toBytes = m := by
  have fits : m.bits.toNat < Bytes.capacity 5 := by
    have bound := m.bits.isLt
    simp only [Bytes.capacity]
    omega
  rw [ofBytes, toBytes, Bytes.toNatLE_ofNatLE, Nat.mod_eq_of_lt fits, BitVec.ofNat_toNat,
    BitVec.setWidth_eq]

private theorem getLsbD_foldl_channels (channels : List UInt8) (bits : BitVec 37) {i : Nat}
    (low : i < 37) :
    (channels.foldl (fun bits c => bits ||| 1#37 <<< c.toNat) bits).getLsbD i = true ↔
      bits.getLsbD i = true ∨ ∃ c ∈ channels, c.toNat = i := by
  induction channels generalizing bits with
  | nil => simp
  | cons c channels ih =>
    have marks : (1#37 <<< c.toNat).getLsbD i = true ↔ c.toNat = i := by
      simp only [BitVec.getLsbD_shiftLeft, BitVec.getLsbD_one, low]
      simp
      omega
    rw [List.foldl_cons, ih, BitVec.getLsbD_or, Bool.or_eq_true, marks, or_assoc]
    simp only [List.mem_cons, exists_eq_or_imp]

theorem isUsed_ofChannels (channels : List UInt8) (c : UInt8) :
    (ofChannels channels).isUsed c = true ↔ c.toNat ≤ 36 ∧ c ∈ channels := by
  have occurs : (∃ d ∈ channels, d.toNat = c.toNat) ↔ c ∈ channels := by
    simp [UInt8.toNat_inj]
  constructor
  · intro used
    have low := toNat_lt_of_isUsed used
    rw [isUsed, ofChannels, getLsbD_foldl_channels channels 0 low, occurs] at used
    simpa [Nat.lt_succ_iff.mp low] using used
  · rintro ⟨low, member⟩
    rw [isUsed, ofChannels, getLsbD_foldl_channels channels 0 (Nat.lt_succ_of_le low), occurs]
    exact .inr member

end ChannelMap

namespace UsedChannels

/-- The channels in use are those of a map, and hops lead to no others. -/
structure AreOf (used : UsedChannels) (m : ChannelMap) : Prop where
  mem_iff : ∀ c, c ∈ used.toList ↔ m.isUsed c = true
  ascending : used.toList.Pairwise (· < ·)
  length_eq : used.toList.length = m.count
  ofChannels_eq : ChannelMap.ofChannels used.toList = m
  contains_iff : ∀ c, used.contains c = true ↔ c ∈ used.toList
  hops_within : ∀ last hop, nextChannel last hop used ∈ used.toList

theorem contains_iff_mem {used : UsedChannels} {c : UInt8} :
    used.contains c = true ↔ c ∈ used.toList :=
  ⟨mem_toList_of_contains, fun member => (mem_toList.mp member).2⟩

theorem ofChannels_toList (used : UsedChannels) : ChannelMap.ofChannels used.toList = used.map := by
  apply ChannelMap.eq_of_isUsed_iff
  intro c
  rw [ChannelMap.isUsed_ofChannels, ← contains_iff_mem, contains]
  constructor
  · exact And.right
  · intro marked
    exact ⟨Nat.le_of_lt_succ (ChannelMap.toNat_lt_of_isUsed marked), marked⟩

theorem areOf_map (used : UsedChannels) : used.AreOf used.map where
  mem_iff _ := contains_iff_mem.symm
  ascending := used.pairwise_toList
  length_eq := used.map.length_channels
  ofChannels_eq := used.ofChannels_toList
  contains_iff _ := contains_iff_mem
  hops_within last hop := used.remap_mem_toList (unmappedHop last hop)

end UsedChannels

namespace ChannelMap

/-- Words, bytes and lists are views of one set of channels. A map made from any of them marks
exactly the channels from 0 to 36 that are in it, a map is read back from its bytes, and its list of
channels in use, if there are at least two, holds what it marks and nothing else. All of it can be
told from the map's word, which is the word, the bytes or the list under the mask. -/
theorem views_agree :
    (∀ n : UInt64, (ofUInt64 n).toUInt64 = n &&& mask ∧
      ∀ c : UInt8, (ofUInt64 n).isUsed c = true ↔
        c.toNat ≤ 36 ∧ n.toNat.testBit c.toNat = true) ∧
    (∀ bytes : Bytes, (ofBytes bytes).toUInt64 = UInt64.ofNat (Bytes.toNatLE bytes) &&& mask ∧
      ∀ c : UInt8, (ofBytes bytes).isUsed c = true ↔
        c.toNat ≤ 36 ∧ (bytes.getD (c.toNat / 8) 0).toNat.testBit (c.toNat % 8) = true) ∧
    (∀ channels : List UInt8,
      (ofChannels channels).toUInt64 =
        (channels.filter (· < 37)).foldl (fun word c => word ||| bit c) 0 ∧
      ∀ c : UInt8, (ofChannels channels).isUsed c = true ↔ c.toNat ≤ 36 ∧ c ∈ channels) ∧
    ∀ m : ChannelMap, m.HeldIn m.toUInt64 ∧ m.toBytes.length = 5 ∧ ofBytes m.toBytes = m ∧
      (UsedChannels.ofMap m = .error (.degenerateChannelMap m.count) ↔ m.count < 2) ∧
      (m.count < 2 ∨ ∃ used, UsedChannels.ofMap m = .ok used ∧ used.AreOf m) := by
  refine ⟨?_, ?_, ?_, ?_⟩
  · intro n
    exact ⟨toUInt64_ofUInt64 n, isUsed_ofNat n.toNat⟩
  · intro bytes
    refine ⟨toUInt64_ofBytes bytes, ?_⟩
    intro c
    rw [← Bytes.testBit_toNatLE]
    exact isUsed_ofNat (Bytes.toNatLE bytes) c
  · intro channels
    exact ⟨toUInt64_ofChannels channels, isUsed_ofChannels channels⟩
  · intro m
    refine ⟨m.heldIn_toUInt64, Bytes.length_ofNatLE 5 _, m.ofBytes_toBytes, ?_⟩
    by_cases several : 2 ≤ m.count
    · have made := UsedChannels.ofMap_of_le several
      refine ⟨iff_of_false ?_ (Nat.not_lt_of_le several),
        .inr ⟨_, made, UsedChannels.areOf_map _⟩⟩
      rw [made]
      exact nofun
    · have few := Nat.lt_of_not_le several
      exact ⟨iff_of_true (UsedChannels.ofMap_of_lt few) few, .inl few⟩

/-- Reserved bits, repetitions and channels that there are not leave the four views the same. -/
example : ofBytes [0x02, 0, 0, 0, 0xF0] = ofChannels [36, 1, 200, 36, 37] ∧
    (ofBytes [0x02, 0, 0, 0, 0xF0]).toBytes = [0x02, 0, 0, 0, 0x10] := by
  decide

end ChannelMap

end BlePeripheral

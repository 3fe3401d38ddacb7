import BlePeripheral.Channel.Selector

/-! The channels in use as a list, and the sequence of the hops over them. The unmapped channel
after `n` hops is `n` times the hop increment round the 37 channels, so the remapped one is known
without making the hops. -/

namespace BlePeripheral

theorem unmappedHop_lt (last hop : UInt8) : (unmappedHop last hop).toNat < 37 := by
  rw [unmappedHop, UInt8.toNat_ofNat']
  omega

namespace UsedChannels

/-- The channel in use after `n` hops from channel zero. -/
def channelAt (used : UsedChannels) (hop : UInt8) (n : Nat) : UInt8 :=
  used.remap (UInt8.ofNat (n * hop.toNat % 37))

theorem mem_toList {used : UsedChannels} {channel : UInt8} :
    channel ∈ used.toList ↔ channel.toNat < 37 ∧ used.contains channel = true := by
  unfold toList ChannelMap.channels
  rw [List.mem_map]
  constructor
  · rintro ⟨n, member, rfl⟩
    obtain ⟨low, marked⟩ := List.mem_filter.mp member
    have same : (UInt8.ofNat n).toNat = n := by
      have := List.mem_range.mp low
      rw [UInt8.toNat_ofNat']
      omega
    rw [contains, ChannelMap.isUsed, same]
    exact ⟨List.mem_range.mp low, marked⟩
  · rintro ⟨low, marked⟩
    exact ⟨channel.toNat, List.mem_filter.mpr ⟨List.mem_range.mpr low, marked⟩, UInt8.ofNat_toNat⟩

theorem mem_toList_of_contains {used : UsedChannels} {channel : UInt8}
    (h : used.contains channel = true) : channel ∈ used.toList := by
  refine mem_toList.mpr ⟨?_, h⟩
  apply Nat.lt_of_not_le
  intro high
  have absent : used.contains channel = false := BitVec.getLsbD_of_ge used.map.bits _ high
  rw [absent] at h
  cases h

theorem pairwise_toList (used : UsedChannels) : used.toList.Pairwise (· < ·) := by
  unfold toList ChannelMap.channels
  rw [List.pairwise_map]
  refine List.Pairwise.imp_of_mem ?_ (List.pairwise_lt_range.filter _)
  intro m n first second less
  have low := List.mem_range.mp (List.mem_filter.mp first).1
  have low' := List.mem_range.mp (List.mem_filter.mp second).1
  rw [UInt8.lt_iff_toNat_lt, UInt8.toNat_ofNat', UInt8.toNat_ofNat']
  omega

theorem nodup_toList (used : UsedChannels) : used.toList.Nodup :=
  used.pairwise_toList.imp fun less => UInt8.ne_of_lt less

theorem ofMap_of_le {map : ChannelMap} (several : 2 ≤ map.count) :
    ofMap map = .ok ⟨map, by rwa [ChannelMap.length_channels]⟩ :=
  dif_pos _

theorem ofMap_of_lt {map : ChannelMap} (few : map.count < 2) :
    ofMap map = .error (.degenerateChannelMap map.count) := by
  rw [← ChannelMap.length_channels] at few ⊢
  exact dif_neg (Nat.not_le_of_lt few)

theorem map_eq_of_ofMap {map : ChannelMap} {used : UsedChannels} (h : ofMap map = .ok used) :
    used.map = map := by
  unfold ofMap at h
  split at h
  · cases h
    rfl
  · cases h

theorem remap_mem_toList (used : UsedChannels) (unmapped : UInt8) :
    used.remap unmapped ∈ used.toList := by
  unfold remap
  split
  · rename_i contained
    exact mem_toList_of_contains contained
  · exact List.getElem_mem _

end UsedChannels

theorem unmappedHop_mul (hop : UInt8) (n : Nat) :
    unmappedHop (UInt8.ofNat (n * hop.toNat % 37)) hop =
      UInt8.ofNat ((n + 1) * hop.toNat % 37) := by
  unfold unmappedHop
  rw [UInt8.toNat_ofNat', Nat.succ_mul]
  congr 1
  omega

namespace ChannelSelector

def hopped (used : UsedChannels) (hop : UInt8) (n : Nat) : ChannelSelector where
  used
  hop
  lastUnmapped := UInt8.ofNat (n * hop.toNat % 37)
  current := used.channelAt hop n

theorem next_initial (used : UsedChannels) (hop : UInt8) :
    next { used, hop } = hopped used hop 1 := by
  have first := unmappedHop_mul hop 0
  rw [Nat.zero_mul] at first
  simp only [next, hopped, UsedChannels.channelAt]
  rw [← first]
  rfl

theorem next_hopped (used : UsedChannels) (hop : UInt8) (n : Nat) :
    (hopped used hop n).next = hopped used hop (n + 1) := by
  simp only [next, hopped, UsedChannels.channelAt, unmappedHop_mul]

theorem take_hopped (used : UsedChannels) (hop : UInt8) (m n : Nat) :
    take n (hopped used hop m) =
      ((List.range n).map fun k => used.channelAt hop (m + k + 1), hopped used hop (m + n)) := by
  induction n generalizing m with
  | zero => rfl
  | succ n ih =>
    simp only [take, next_hopped, ih, List.range_succ_eq_map, List.map_cons, List.map_map]
    refine Prod.ext ?_ ?_
    · refine List.cons_eq_cons.mpr ⟨rfl, List.map_congr_left ?_⟩
      intro k _
      simp only [Function.comp_apply]
      congr 1
      omega
    · simp only [Nat.add_assoc, Nat.add_comm 1]

end ChannelSelector

end BlePeripheral

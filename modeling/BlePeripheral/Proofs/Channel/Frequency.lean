import Mathlib.Data.List.Nodup
import Mathlib.Data.List.Perm.Subperm
import Mathlib.Data.Nat.ModEq
import Mathlib.Tactic.NormNum.Prime
import BlePeripheral.Proofs.Channel.Hops

/-! How often the hops come to each channel in use. In 37 hops in a row every channel comes up once,
because 37 is prime. The channels that are not in use are shared out among the others by their
remainders, not evenly. -/

namespace BlePeripheral

/-- Steps of one length round a circle of `n` places come to each place once in `n` steps, if the
length has no factor in common with `n`. -/
theorem perm_range_of_coprime {n step : Nat} (coprime : Nat.Coprime n step) (first : Nat) :
    ((List.range n).map fun k => (first + k) * step % n).Perm (List.range n) := by
  have once : ((List.range n).map fun k => (first + k) * step % n).Nodup := by
    refine List.Nodup.map_on ?_ List.nodup_range
    intro k low k' low' same
    have cancelled : first + k ≡ first + k' [MOD n] :=
      Nat.ModEq.cancel_right_of_coprime coprime same
    have apart : k ≡ k' [MOD n] := Nat.ModEq.add_left_cancel' first cancelled
    rwa [Nat.ModEq, Nat.mod_eq_of_lt (List.mem_range.mp low),
      Nat.mod_eq_of_lt (List.mem_range.mp low')] at apart
  have places : ((List.range n).map fun k => (first + k) * step % n) ⊆ List.range n := by
    intro x member
    obtain ⟨k, low, rfl⟩ := List.mem_map.mp member
    exact List.mem_range.mpr (Nat.mod_lt _ (Nat.zero_lt_of_lt (List.mem_range.mp low)))
  refine (List.subperm_of_subset once places).perm_of_length_le ?_
  rw [List.length_map]

namespace UsedChannels

/-- How many channels not in use are remapped to the one at a place in the list: those that leave
this place as their remainder. -/
def substitutions (used : UsedChannels) (i : Nat) : Nat :=
  (List.range 37).countP fun x => !used.contains (UInt8.ofNat x) && x % used.toList.length = i

section

variable {used : UsedChannels} {x i : Nat} (place : i < used.toList.length)

theorem remap_eq_and_contains_iff (low : x < 37) :
    used.remap (UInt8.ofNat x) = used.toList[i] ∧ used.contains (UInt8.ofNat x) = true ↔
      x = used.toList[i].toNat := by
  have channel : used.contains used.toList[i] = true :=
    (mem_toList.mp (List.getElem_mem place)).2
  constructor
  · rintro ⟨same, contained⟩
    rw [remap, if_pos contained] at same
    rw [← same, UInt8.toNat_ofNat']
    omega
  · rintro rfl
    rw [UInt8.ofNat_toNat]
    exact ⟨if_pos channel, channel⟩

theorem remap_eq_and_not_contains_iff (low : x < 37) :
    used.remap (UInt8.ofNat x) = used.toList[i] ∧ used.contains (UInt8.ofNat x) = false ↔
      used.contains (UInt8.ofNat x) = false ∧ x % used.toList.length = i := by
  rw [and_comm]
  refine and_congr_right ?_
  intro absent
  have same : (UInt8.ofNat x).toNat = x := by
    rw [UInt8.toNat_ofNat']
    omega
  rw [remap, if_neg (Bool.eq_false_iff.mp absent), used.nodup_toList.getElem_inj_iff, same]

theorem countP_remap :
    (List.range 37).countP (fun x => used.remap (UInt8.ofNat x) = used.toList[i]) =
      1 + used.substitutions i := by
  rw [List.countP_eq_countP_filter_add _ _ fun x => used.contains (UInt8.ofNat x),
    List.countP_filter, List.countP_filter]
  congr 1
  · have low : used.toList[i].toNat < 37 := (mem_toList.mp (List.getElem_mem place)).1
    rw [← List.count_eq_one_of_mem List.nodup_range (List.mem_range.mpr low), List.count_eq_countP]
    apply List.countP_congr
    intro x member
    simpa using remap_eq_and_contains_iff place (List.mem_range.mp member)
  · apply List.countP_congr
    intro x member
    simpa using remap_eq_and_not_contains_iff place (List.mem_range.mp member)

end

/-- In 37 hops in a row every channel comes up once, as itself or remapped. -/
theorem perm_hops (used : UsedChannels) {hop : UInt8} (coprime : Nat.Coprime 37 hop.toNat)
    (n : Nat) :
    ((List.range 37).map fun k => used.channelAt hop (n + k + 1)).Perm
      ((List.range 37).map fun x => used.remap (UInt8.ofNat x)) := by
  have round := (perm_range_of_coprime coprime (n + 1)).map fun x => used.remap (UInt8.ofNat x)
  have hops : (List.range 37).map (fun k => used.channelAt hop (n + k + 1)) =
      ((List.range 37).map fun k => (n + 1 + k) * hop.toNat % 37).map
        fun x => used.remap (UInt8.ofNat x) := by
    rw [List.map_map]
    apply List.map_congr_left
    intro k _
    rw [channelAt, Nat.add_right_comm]
    rfl
  rw [hops]
  exact round

theorem count_hops (used : UsedChannels) {hop : UInt8} (coprime : Nat.Coprime 37 hop.toNat)
    (n : Nat) {i : Nat} (place : i < used.toList.length) :
    ((List.range 37).map fun k => used.channelAt hop (n + k + 1)).count used.toList[i] =
      1 + used.substitutions i := by
  rw [(used.perm_hops coprime n).count_eq, List.count_eq_countP, List.countP_map,
    ← countP_remap place]
  rfl

end UsedChannels

namespace ChannelSelector

def reached (used : UsedChannels) (hop : UInt8) (n : Nat) : ChannelSelector :=
  (take n { used, hop }).2

theorem take_initial (used : UsedChannels) (hop : UInt8) (n : Nat) :
    take (n + 1) { used, hop } = take (n + 1) (hopped used hop 0) := by
  simp only [take, next_initial, next_hopped]

theorem reached_succ (used : UsedChannels) (hop : UInt8) (n : Nat) :
    reached used hop (n + 1) = hopped used hop (n + 1) := by
  rw [reached, take_initial, take_hopped, Nat.zero_add]

theorem channels_reached (used : UsedChannels) (hop : UInt8) (n m : Nat) :
    ((reached used hop n).take m).1 =
      (List.range m).map fun k => used.channelAt hop (n + k + 1) := by
  cases n with
  | zero =>
    cases m with
    | zero => rfl
    | succ m =>
      show (take (m + 1) { used, hop }).1 = _
      rw [take_initial, take_hopped]
  | succ n => rw [reached_succ, take_hopped]

theorem hopped_round (used : UsedChannels) (hop : UInt8) (n : Nat) :
    hopped used hop (n + 37) = hopped used hop n := by
  rw [hopped, hopped, UsedChannels.channelAt, UsedChannels.channelAt, Nat.add_mul,
    Nat.add_mul_mod_self_left]

/-- Whatever number of hops a selector has made, in the next 37 each channel in use comes up once,
and once more for each channel that is remapped to it, and no other channel comes up. If it has made
a hop before, it is then where it was. -/
theorem hops_visit_by_share (used : UsedChannels) (hop : UInt8) (proper : ¬37 ∣ hop.toNat)
    (n : Nat) :
    (∀ (i : Nat) (place : i < used.toList.length),
      ((reached used hop n).take 37).1.count used.toList[i] = 1 + used.substitutions i) ∧
    (∀ channel, channel ∈ ((reached used hop n).take 37).1 ↔ channel ∈ used.toList) ∧
    (0 < n → ((reached used hop n).take 37).2 = reached used hop n) := by
  have prime : Nat.Prime 37 := by norm_num
  have coprime : Nat.Coprime 37 hop.toNat := prime.coprime_iff_not_dvd.mpr proper
  rw [channels_reached]
  refine ⟨fun i place => used.count_hops coprime n place, ?_, ?_⟩
  · intro channel
    constructor
    · intro visited
      obtain ⟨k, -, rfl⟩ := List.mem_map.mp visited
      exact used.remap_mem_toList _
    · intro member
      obtain ⟨i, place, rfl⟩ := List.getElem_of_mem member
      rw [← List.count_pos_iff, used.count_hops coprime n place]
      omega
  · intro hopped
    obtain ⟨m, rfl⟩ := Nat.exists_eq_add_of_lt hopped
    rw [Nat.zero_add, reached_succ, take_hopped, hopped_round]

/-- Three channels are in use, and their remainders are not equally frequent. -/
theorem hops_visit_by_share_of_three :
    ∃ used : UsedChannels, used.toList = [1, 3, 5] ∧ ¬37 ∣ (7 : UInt8).toNat ∧
      ((reached used 7 2).take 37).1.count 1 = 13 ∧ ((reached used 7 2).take 37).1.count 3 = 12 ∧
      ((reached used 7 2).take 37).1.count 5 = 12 ∧
      ((reached used 7 2).take 37).2 = reached used 7 2 := by
  obtain ⟨counted, -, back⟩ :=
    hops_visit_by_share ⟨.ofChannels [1, 3, 5], by decide⟩ 7 (by decide) 2
  exact ⟨_, by decide, by decide, counted 0 (by decide), counted 1 (by decide),
    counted 2 (by decide), back (by decide)⟩

end ChannelSelector

end BlePeripheral

import BlePeripheral.Air.Wait

/-! Waits counted in readings of the clock. A wait ends at the first reading that finds its
span passed; since two readings are a step apart, it is over at most one step too late unless
it began too late. -/

namespace BlePeripheral

namespace Clock

def afterReads (clock : Clock) (n : Nat) : Clock :=
  { clock with time := clock.time + n * clock.step.toNat }

@[simp] theorem afterReads_step (clock : Clock) (n : Nat) : (clock.afterReads n).step = clock.step :=
  rfl

@[simp] theorem afterReads_time (clock : Clock) (n : Nat) :
    (clock.afterReads n).time = clock.time + n * clock.step.toNat := rfl

@[simp] theorem afterReads_zero (clock : Clock) : clock.afterReads 0 = clock := by
  simp [afterReads]

@[simp] theorem afterReads_afterReads (clock : Clock) (m n : Nat) :
    (clock.afterReads m).afterReads n = clock.afterReads (m + n) := by
  simp only [afterReads, Nat.add_mul, Nat.add_assoc]

theorem afterRead_eq (clock : Clock) : clock.afterRead = clock.afterReads 1 := by
  simp [afterRead, afterReads]

def ReadsTo (clock clock' : Clock) : Prop := ∃ n, clock' = clock.afterReads n

theorem readsTo_afterReads (clock : Clock) (n : Nat) : clock.ReadsTo (clock.afterReads n) := ⟨n, rfl⟩

namespace ReadsTo

variable {clock clock' clock'' : Clock}

theorem refl (clock : Clock) : clock.ReadsTo clock := ⟨0, clock.afterReads_zero.symm⟩

theorem trans (h : clock.ReadsTo clock') (h' : clock'.ReadsTo clock'') :
    clock.ReadsTo clock'' := by
  obtain ⟨m, rfl⟩ := h
  obtain ⟨n, rfl⟩ := h'
  exact ⟨m + n, clock.afterReads_afterReads m n⟩

theorem step_eq (h : clock.ReadsTo clock') : clock'.step = clock.step := by
  obtain ⟨n, rfl⟩ := h
  exact clock.afterReads_step n

theorem time_le (h : clock.ReadsTo clock') : clock.time ≤ clock'.time := by
  obtain ⟨n, rfl⟩ := h
  exact Nat.le_add_right _ _

end ReadsTo

/-- The reading after `i` others finds the span passed. -/
def elapsedAt (clock : Clock) (start : Tick) (span : UInt32) (i : Nat) : Bool :=
  hasElapsed (clock.afterReads i).now start span

@[simp] theorem elapsedAt_afterReads (clock : Clock) (start : Tick) (span : UInt32) (m i : Nat) :
    (clock.afterReads m).elapsedAt start span i = clock.elapsedAt start span (m + i) := by
  simp [elapsedAt]

theorem waitUntil_eq_some {start : Tick} {span : UInt32} {polls rest : Nat} {clock last : Clock}
    (h : waitUntil start span polls clock = ⟨some (), rest, last⟩) :
    ∃ n, polls = rest + (n + 1) ∧ last = clock.afterReads (n + 1) ∧
      clock.elapsedAt start span n = true ∧ ∀ i < n, clock.elapsedAt start span i = false := by
  induction polls generalizing clock with
  | zero => cases h
  | succ polls ih =>
    rw [waitUntil] at h
    by_cases now : hasElapsed clock.now start span = true
    · rw [if_pos now] at h
      cases h
      exact ⟨0, rfl, clock.afterRead_eq, by simpa [elapsedAt] using now, by simp⟩
    · rw [if_neg now] at h
      obtain ⟨n, hpolls, rfl, passed, before⟩ := ih h
      have first : clock.elapsedAt start span 0 = false := by simpa [elapsedAt] using now
      simp only [afterRead_eq, elapsedAt_afterReads, Nat.add_comm 1] at passed before
      refine ⟨n + 1, by omega, ?_, passed, Nat.forall_lt_succ_left.mpr ⟨first, before⟩⟩
      rw [afterRead_eq, afterReads_afterReads, Nat.add_comm 1]

/-- A wait for the span takes so many readings of the clock: with fewer polls it gives up when they
are spent, and of more it leaves the rest. -/
def WaitTakes (clock : Clock) (start : Tick) (span : UInt32) (reads : Nat) : Prop :=
  ∀ polls, waitUntil start span polls clock =
    if reads ≤ polls then ⟨some (), polls - reads, clock.afterReads reads⟩
    else ⟨none, 0, clock.afterReads polls⟩

theorem waitTakes_of_first {clock : Clock} {start : Tick} {span : UInt32} {n : Nat}
    (passed : clock.elapsedAt start span n = true)
    (before : ∀ i < n, clock.elapsedAt start span i = false) :
    clock.WaitTakes start span (n + 1) := by
  intro polls
  -- A poll that is spent in vain leaves a later clock, from which that reading is one nearer.
  induction polls generalizing clock n with
  | zero => simp [waitUntil]
  | succ polls ih =>
    cases n with
    | zero =>
      have now : hasElapsed clock.now start span = true := by simpa [elapsedAt] using passed
      rw [waitUntil, if_pos now, afterRead_eq, if_pos (by omega)]
      rfl
    | succ n =>
      have now : hasElapsed clock.now start span = false := by
        simpa [elapsedAt] using before 0 n.succ_pos
      have later : (clock.afterReads 1).elapsedAt start span n = true := by
        rw [elapsedAt_afterReads, Nat.add_comm]
        exact passed
      have vain : ∀ i < n, (clock.afterReads 1).elapsedAt start span i = false := by
        intro i hi
        rw [elapsedAt_afterReads, Nat.add_comm]
        exact before (i + 1) (by omega)
      rw [waitUntil, now, if_neg (by decide), afterRead_eq, ih later vain, afterReads_afterReads,
        afterReads_afterReads, Nat.add_comm 1, Nat.add_comm 1]
      simp only [Nat.add_le_add_iff_right, Nat.add_sub_add_right]

theorem toNat_elapsedSince_afterReads (clock : Clock) (start : Tick) (i : Nat) :
    (elapsedSince (clock.afterReads i).now start).toNat =
      (clock.time + (4294967296 - start.toNat) + i * clock.step.toNat) % 4294967296 := by
  have bound := start.toNat_lt
  simp only [elapsedSince, UInt32.toNat_sub, now, afterReads_time, Time.toNat_tick]
  omega

theorem toNat_elapsedSince_now (clock : Clock) (n : Nat) :
    (elapsedSince (clock.afterReads n).now clock.now).toNat =
      n * clock.step.toNat % 4294967296 := by
  rw [now, now, afterReads_time, elapsedSince_tick_add, UInt32.toNat_ofNat']

theorem toNat_elapsedSince_later (clock : Clock) (start : Tick) (n : Nat) :
    (elapsedSince (clock.afterReads n).now start).toNat =
      ((elapsedSince clock.now start).toNat + n * clock.step.toNat) % 4294967296 := by
  have now := clock.toNat_elapsedSince_afterReads start 0
  rw [afterReads_zero, Nat.zero_mul, Nat.add_zero] at now
  rw [toNat_elapsedSince_afterReads, now, Nat.mod_add_mod]

theorem elapsedAt_eq_true {clock : Clock} {start : Tick} {span : UInt32} {i : Nat} :
    clock.elapsedAt start span i = true ↔
      span.toNat ≤ (elapsedSince (clock.afterReads i).now start).toNat := by
  simp [elapsedAt, hasElapsed, UInt32.le_iff_toNat_le]

theorem elapsedAt_eq_false {clock : Clock} {start : Tick} {span : UInt32} {i : Nat} :
    clock.elapsedAt start span i = false ↔
      (clock.time + (4294967296 - start.toNat) + i * clock.step.toNat) % 4294967296 < span.toNat := by
  rw [← toNat_elapsedSince_afterReads, ← Bool.not_eq_true, elapsedAt_eq_true, Nat.not_le]

theorem span_le_of_elapsedAt {clock : Clock} {start : Tick} {span : UInt32} {i : Nat}
    (passed : clock.elapsedAt start span i = true) :
    span.toNat ≤ (elapsedSince (clock.afterReads i).now start).toNat :=
  elapsedAt_eq_true.mp passed

theorem eq_of_first {clock : Clock} {start : Tick} {span : UInt32} {m n : Nat}
    (passed : clock.elapsedAt start span m = true)
    (before : ∀ i < m, clock.elapsedAt start span i = false)
    (passed' : clock.elapsedAt start span n = true)
    (before' : ∀ i < n, clock.elapsedAt start span i = false) : m = n := by
  apply Nat.le_antisymm <;> apply Nat.le_of_not_lt
  · intro later
    rw [before n later] at passed'
    cases passed'
  · intro later
    rw [before' m later] at passed
    cases passed

theorem start_add_le_of_elapsedAt {clock : Clock} {start i : Nat} {span : UInt32}
    (begun : start ≤ clock.time) (passed : clock.elapsedAt (Time.tick start) span i = true) :
    start + span.toNat ≤ (clock.afterReads i).time := by
  have later : start ≤ (clock.afterReads i).time :=
    Nat.le_trans begun (clock.readsTo_afterReads i).time_le
  obtain ⟨past, same⟩ := Nat.exists_eq_add_of_le later
  have shown := span_le_of_elapsedAt passed
  rw [now, same, elapsedSince_tick_add, UInt32.toNat_ofNat'] at shown
  rw [same]
  exact Nat.add_le_add_left (Nat.le_trans shown (Nat.mod_le _ _)) start

theorem overshoot_lt {clock : Clock} {start : Tick} {span : UInt32} {n : Nat} (first stride : Nat)
    (before : ∀ i < n, clock.elapsedAt start span (first + i * stride) = false) :
    n = 0 ∨ (elapsedSince (clock.afterReads (first + n * stride)).now start).toNat <
      span.toNat + stride * clock.step.toNat := by
  cases n with
  | zero => exact .inl rfl
  | succ n =>
    have last := elapsedAt_eq_false.mp (before n (by omega))
    have reads : (first + (n + 1) * stride) * clock.step.toNat =
        (first + n * stride) * clock.step.toNat + stride * clock.step.toNat := by
      rw [Nat.succ_mul, ← Nat.add_assoc, Nat.add_mul]
    rw [toNat_elapsedSince_afterReads, reads]
    right
    omega

/-- Values a fixed distance apart that stay below a span, however they are reduced, have not
been reduced, if the span and the distance leave room for that. -/
private theorem unreduced_lt {e d n span : Nat} (room : span + d ≤ 4294967296)
    (h : ∀ i < n, (e + i * d) % 4294967296 < span) : ∀ i < n, e % 4294967296 + i * d < span := by
  intro i hi
  induction i with
  | zero => simpa using h 0 hi
  | succ i ih =>
    have before := ih (by omega)
    have next := h (i + 1) hi
    have split : (i + 1) * d = i * d + d := Nat.succ_mul i d
    rw [split] at next ⊢
    omega

theorem vain_reads_lt {clock : Clock} {start : Tick} {span : UInt32} {n : Nat}
    (first stride : Nat) (room : span.toNat + stride * clock.step.toNat ≤ 4294967296)
    (h : ∀ i < n, clock.elapsedAt start span (first + i * stride) = false) : ∀ i < n,
      (elapsedSince (clock.afterReads first).now start).toNat + i * (stride * clock.step.toNat) <
        span.toNat := by
  rw [toNat_elapsedSince_afterReads]
  apply unreduced_lt room
  intro i hi
  have vain := elapsedAt_eq_false.mp (h i hi)
  rwa [Nat.add_mul, Nat.mul_assoc, ← Nat.add_assoc] at vain

/-- Of readings a fixed distance apart, the first that finds a span passed shows it passed by less
than that distance, unless there is none before it. The readings have not seen the counter wrap. -/
theorem first_found {clock : Clock} {start : Tick} {span : UInt32} {n : Nat} (first stride : Nat)
    (room : span.toNat + stride * clock.step.toNat < 4294967296)
    (passed : clock.elapsedAt start span (first + n * stride) = true)
    (before : ∀ i < n, clock.elapsedAt start span (first + i * stride) = false) :
    span.toNat ≤ (elapsedSince (clock.afterReads first).now start).toNat +
        n * (stride * clock.step.toNat) ∧
      (n = 0 ∨ (elapsedSince (clock.afterReads first).now start).toNat +
        n * (stride * clock.step.toNat) < span.toNat + stride * clock.step.toNat) := by
  have vain := vain_reads_lt first stride (Nat.le_of_lt room) before
  have found := span_le_of_elapsedAt passed
  rw [← afterReads_afterReads, toNat_elapsedSince_later, afterReads_step, Nat.mul_assoc] at found
  refine ⟨Nat.le_trans found (Nat.mod_le _ _), ?_⟩
  cases n with
  | zero => exact .inl rfl
  | succ n =>
    have last := vain n n.lt_succ_self
    rw [Nat.succ_mul]
    omega

theorem found_within {clock : Clock} {span : UInt32} {first stride n : Nat} (begins : first < stride)
    (moves : 0 < clock.step.toNat) (room : span.toNat + stride * clock.step.toNat < 4294967296)
    (passed : clock.elapsedAt clock.now span (first + n * stride) = true)
    (before : ∀ i < n, clock.elapsedAt clock.now span (first + i * stride) = false) :
    span.toNat ≤ (first + n * stride) * clock.step.toNat ∧
      (first + n * stride) * clock.step.toNat < span.toNat + stride * clock.step.toNat := by
  have start : first * clock.step.toNat < stride * clock.step.toNat :=
    Nat.mul_lt_mul_of_pos_right begins moves
  have shown : (elapsedSince (clock.afterReads first).now clock.now).toNat =
      first * clock.step.toNat := by
    rw [toNat_elapsedSince_now]
    exact Nat.mod_eq_of_lt (by omega)
  obtain ⟨least, most⟩ := first_found first stride room passed before
  rw [shown] at least most
  rw [Nat.add_mul, Nat.mul_assoc]
  refine ⟨least, ?_⟩
  obtain rfl | most := most
  · omega
  · exact most

theorem vain_reads_le {clock : Clock} {start : Tick} {span : UInt32} {n : Nat}
    (first stride : Nat) (room : span.toNat + stride * clock.step.toNat ≤ 4294967296)
    (h : ∀ i < n, clock.elapsedAt start span (first + i * stride) = false) :
    n * (stride * clock.step.toNat) ≤ span.toNat + stride * clock.step.toNat := by
  cases n with
  | zero => omega
  | succ n =>
    have last := vain_reads_lt first stride room h n n.lt_succ_self
    rw [Nat.succ_mul]
    omega

theorem wait_time_le {clock : Clock} {start : Tick} {span : UInt32} {n : Nat}
    (room : span.toNat + clock.step.toNat ≤ 4294967296)
    (h : ∀ i < n, clock.elapsedAt start span i = false) :
    (n + 1) * clock.step.toNat ≤ span.toNat + 2 * clock.step.toNat := by
  have vain := vain_reads_le 0 1 (by simpa using room) (by simpa using h)
  rw [Nat.one_mul] at vain
  rw [Nat.succ_mul]
  omega

theorem wait_in_time {clock : Clock} {start n : Nat} {span : UInt32} (begun : start ≤ clock.time)
    (inTime : clock.time < start + span.toNat + clock.step.toNat)
    (room : span.toNat + clock.step.toNat ≤ 4294967296)
    (passed : clock.elapsedAt (Time.tick start) span n = true)
    (before : ∀ i < n, clock.elapsedAt (Time.tick start) span i = false) :
    start + span.toNat ≤ (clock.afterReads n).time ∧
      (clock.afterReads n).time < start + span.toNat + clock.step.toNat := by
  obtain ⟨late, hlate⟩ := Nat.exists_eq_add_of_le begun
  have shown : (elapsedSince clock.now (Time.tick start)).toNat = late % 4294967296 := by
    rw [now, hlate, elapsedSince_tick_add, UInt32.toNat_ofNat']
  have waited := vain_reads_lt 0 1 (by simpa using room) (by simpa using before)
  rw [afterReads_zero, shown, Nat.one_mul] at waited
  refine ⟨start_add_le_of_elapsedAt begun passed, ?_⟩
  rw [afterReads_time]
  cases n with
  | zero => omega
  | succ n =>
    have last := waited n (by omega)
    rw [Nat.succ_mul]
    omega

theorem exists_elapsedAt {clock : Clock} {start : Tick} {span : UInt32} (first stride : Nat)
    (moves : 0 < stride * clock.step.toNat)
    (room : span.toNat + stride * clock.step.toNat ≤ 4294967296) :
    ∃ n, clock.elapsedAt start span (first + n * stride) = true := by
  apply Classical.byContradiction
  intro never
  simp only [not_exists, Bool.not_eq_true] at never
  have vain := vain_reads_le (n := span.toNat + stride * clock.step.toNat + 1) first stride room
    (fun i _ => never i)
  have long := Nat.le_mul_of_pos_right (span.toNat + stride * clock.step.toNat + 1) moves
  omega

theorem exists_first {clock : Clock} {start : Tick} {span : UInt32} {n : Nat}
    (passed : clock.elapsedAt start span n = true) :
    ∃ i, clock.elapsedAt start span i = true ∧ ∀ j < i, clock.elapsedAt start span j = false := by
  induction n using Nat.strongRecOn with
  | ind n ih =>
    by_cases sooner : ∃ m < n, clock.elapsedAt start span m = true
    · obtain ⟨m, hm, passed'⟩ := sooner
      exact ih m hm passed'
    · exact ⟨n, passed, by simpa using sooner⟩

end Clock

end BlePeripheral

import Mathlib.Data.Nat.Prime.Basic
import BlePeripheral.Air.Central
import BlePeripheral.Proofs.Link.Silence

/-! A connection whose peer falls silent is lost, unless its timeout comes too close to a round of
the tick counter. The checks may then never fall past it, and the connection is held for good. -/

namespace BlePeripheral

namespace ConnectionContext

variable {context : ConnectionContext} {rate : TickRate}

theorem toNat_supervisionTicks (context : ConnectionContext) (rate : TickRate) :
    (context.supervisionTicks rate).toNat =
      min (16 * (625 * context.timeout.toNat * rate.ticksPerUs.toNat)) 4294967295 := by
  have bound := context.timeout.toNat_lt
  simp only [supervisionTicks, TickRate.ticksFor10Ms, TickRate.ticksForUs, toNat_saturate,
    UInt16.toNat_toUInt32]
  rw [Nat.min_eq_left (by omega : context.timeout.toNat * 10000 ≤ 4294967295)]
  congr 1
  ring

theorem long_intervalTicks (rated : 1 ≤ rate.ticksPerUs.toNat)
    (spaced : 6 ≤ context.interval.toNat) : 20 ≤ (context.intervalTicks rate).toNat := by
  have bound := context.interval.toNat_lt
  simp only [intervalTicks, TickRate.ticksFor1250Us, TickRate.ticksForUs, toNat_saturate,
    UInt16.toNat_toUInt32]
  have ticks := Nat.mul_le_mul (by omega : 7500 ≤ min (context.interval.toNat * 1250) 4294967295) rated
  omega

theorem sixteen_dvd_or_le_of_dvd_round {g : Nat} (h : g ∣ 4294967296) : 16 ∣ g ∨ g ≤ 8 := by
  obtain ⟨a, -, rfl⟩ := (Nat.dvd_prime_pow (m := 32) Nat.prime_two).mp h
  by_cases small : a ≤ 3
  · exact .inr (Nat.pow_le_pow_right (by omega) small)
  · exact .inl (Nat.pow_dvd_pow 2 (by omega : 4 ≤ a))

/-- Unless the timeout is too close to a round, some check falls past it, whenever exactly the
window is found closed. -/
theorem exists_late_check
    (room : (context.supervisionTicks rate).toNat +
      Nat.gcd (context.intervalTicks rate).toNat 4294967296 < 4294967296) :
    ∃ k, 0 < k ∧ ∀ d, 1 ≤ d → d ≤ 4 →
      (context.supervisionTicks rate).toNat < context.checkAt rate k d := by
  have timeout := toNat_supervisionTicks context rate
  have divides := Nat.gcd_dvd_right (context.intervalTicks rate).toNat 4294967296
  obtain ⟨k, pos, least, most⟩ := Time.exists_mul_add_mod_between
    (Connection.ofContext context rate).window.closing.toNat
    (by omega) (Nat.le_of_lt room)
  refine ⟨k, pos, ?_⟩
  intro d first last
  -- Timeouts are multiples of sixteen, which leaves room for the readings after the window.
  have margin : (context.supervisionTicks rate).toNat +
      Nat.gcd (context.intervalTicks rate).toNat 4294967296 + 4 ≤ 4294967296 := by
    obtain ⟨t, even⟩ | small := sixteen_dvd_or_le_of_dvd_round divides <;> omega
  unfold checkAt
  omega

end ConnectionContext

namespace Link

variable {P : Type} [Peer P]

def Returns (link : Link) (w : World P) : Prop :=
  ∀ stages link' w', Run link w stages link' w' →
    (∀ stage ∈ stages, stage.before.state.isConnected = true) → link'.state.isConnected = true →
    ∃ event link'' w'', link'.Step w' event link'' w''

/-- After `n` connection events at the latest the link has reported that the connection is lost,
and advertises again. -/
structure LostWithin (link : Link) (w : World P) (n : Nat) : Prop where
  bounded : ∀ stages link' w', Run link w stages link' w' →
    (∀ stage ∈ stages, stage.before.state.isConnected = true) → stages.length ≤ n
  reported : ∀ stages link' w', Run link w stages link' w' →
    (∀ stage ∈ stages, stage.before.state.isConnected = true) →
    link'.state.isConnected = false → link'.state = .advertising ∧
      ∃ error, stages.getLast?.map Stage.event = some (.connectionLost error)
  ends : ∃ stages link' w', Run link w stages link' w' ∧
    (∀ stage ∈ stages, stage.before.state.isConnected = true) ∧ link'.state.isConnected = false

theorem Returns.exists_run {link : Link} {w : World P} (returns : link.Returns w) (n : Nat) :
    ∃ stages link' w', Run link w stages link' w' ∧
      (∀ stage ∈ stages, stage.before.state.isConnected = true) ∧
      (stages.length = n ∨ link'.state.isConnected = false) := by
  induction n with
  | zero => exact ⟨[], link, w, .nil link w, by simp, .inl rfl⟩
  | succ n ih =>
    obtain ⟨stages, link', w', run, connected, length⟩ := ih
    cases still : link'.state.isConnected with
    | false => exact ⟨stages, link', w', run, connected, .inr still⟩
    | true =>
      have length := length.resolve_right (by simp [still])
      obtain ⟨event, link'', w'', step⟩ := returns stages link' w' run connected still
      refine ⟨_, link'', w'', run.snoc step, ?_, .inl (by simp [length])⟩
      intro stage member
      obtain earlier | last := List.mem_append.mp member
      · exact connected stage earlier
      · rw [List.mem_singleton.mp last]
        exact still

theorem Step.unheard_of_established {link link' : Link} {w w' : World P} {event : LinkEvent}
    {context : ConnectionContext} {rate : TickRate} (h : link.Step w event link' w')
    (waiting : link.state = .connectRequest (.ofContext context rate))
    (unit : w.radio.clock.step = 1)
    (silent : Peer.Silent context.accessAddress w'.radio.peer) :
    ∃ c first, link'.state = .connected c ∧ Unheard c w'.radio context rate first 0 := by
  obtain ⟨frame, radio, n, m, heard, answered, -, -, state⟩ := h.of_connectRequest waiting
  have ticks : radio.clock.step = 1 := by
    rw [heard]
    exact unit
  have clock : w'.radio.clock = (radio.clock.afterReads (m + 1)).afterReads 1 := by rw [answered]; rfl
  have tuned : w'.radio.accessAddress = context.accessAddress := by rw [answered, heard]; rfl
  have scheduled := Connection.scheduled_established context rate frame
    (radio.clock.afterReads (m + 1)).now
  refine ⟨_, _, state, scheduled, rfl, rfl, rfl, ?_, .inl ?_, ?_⟩
  · rw [clock]
    exact ticks
  · -- The clock has been read once since the anchor.
    have anchor : ((Connection.ofContext context rate).established frame
        (radio.clock.afterReads (m + 1)).now).anchor = (radio.clock.afterReads (m + 1)).now := rfl
    rw [clock, ← Clock.afterRead_eq, Clock.now_afterRead, anchor, elapsedSince_add,
      Clock.afterReads_step, ticks]
    rfl
  · rw [tuned]
    exact silent

theorem Unheard.lostWithin {link : Link} {w : World P} {c : Connection} {context : ConnectionContext}
    {rate : TickRate} {first : Tick} {n : Nat} (unheard : Unheard c w.radio context rate first 0)
    (start : link.state = .connected c) (returns : link.Returns w)
    (long : 20 ≤ (context.intervalTicks rate).toNat) (pos : 0 < n)
    (late : ∀ d, 1 ≤ d → d ≤ 4 →
      (context.supervisionTicks rate).toNat < context.checkAt rate n d) :
    link.LostWithin w n := by
  have bounded : ∀ stages link' w', Run link w stages link' w' →
      (∀ stage ∈ stages, stage.before.state.isConnected = true) → stages.length ≤ n := by
    intro stages link' w' run connected
    obtain ⟨spared, -⟩ := run.unheard start connected unheard long
    apply Nat.le_of_not_lt
    intro more
    obtain ⟨d, least, most, recent⟩ := spared (n - 1) (by omega)
    have index : 0 + (n - 1) + 1 = n := by omega
    rw [index] at recent
    exact Nat.not_lt_of_le recent (late d least most)
  refine ⟨bounded, ?_, ?_⟩
  · intro stages link' w' run connected ended
    obtain ⟨-, ⟨c', still, -⟩ | ⟨state, -, lost⟩⟩ := run.unheard start connected unheard long
    · rw [still] at ended
      cases ended
    · exact ⟨state, lost⟩
  · obtain ⟨stages, link', w', run, connected, length⟩ := returns.exists_run (n + 1)
    have least := bounded stages link' w' run connected
    exact ⟨stages, link', w', run, connected, length.resolve_left (by omega)⟩

theorem Unheard.returns {link : Link} {w : World P} {c : Connection} {context : ConnectionContext}
    {rate : TickRate} {first : Tick} (unheard : Unheard c w.radio context rate first 0)
    (start : link.state = .connected c) (long : 20 ≤ (context.intervalTicks rate).toNat)
    (room : (context.intervalTicks rate).toNat + 2 ≤ 4294967296)
    (room' : link.config.tickRate.interFrameSpace.toNat + 1 ≤ 4294967296) : link.Returns w := by
  intro stages link' w' run connected still
  obtain ⟨-, ⟨c', state, unheard'⟩ | ⟨ended, -⟩⟩ := run.unheard start connected unheard long
  · apply exists_step state
    · rw [unheard'.unit]
      decide
    · exact unheard'.timed
    · rw [unheard'.scheduled.interval, unheard'.unit]
      exact room
    · rw [run.config_eq, unheard'.unit]
      exact room'
  · rw [ended] at still
    cases still

theorem Unheard.held {link link' : Link} {w w' : World P} {stages : List Stage} {c : Connection}
    {context : ConnectionContext} {rate : TickRate} {first : Tick}
    (unheard : Unheard c w.radio context rate first 0) (start : link.state = .connected c)
    (long : 20 ≤ (context.intervalTicks rate).toNat)
    (spared : ∀ k d, 1 ≤ d → d ≤ 4 →
      context.checkAt rate k d ≤ (context.supervisionTicks rate).toNat)
    (run : Run link w stages link' w')
    (connected : ∀ stage ∈ stages, stage.before.state.isConnected = true) :
    link'.state.isConnected = true := by
  obtain ⟨-, ⟨c', state, -⟩ | ⟨-, ⟨k, d, least, most, late⟩, -⟩⟩ :=
    run.unheard start connected unheard long
  · rw [state]
    rfl
  · exact absurd (spared k d least most) (Nat.not_le_of_lt late)

def silentPeer (interval timeout : UInt16) : ScriptedPeer :=
  let central : Central := { target := ({} : LinkConfig).address, replyDelay := 100 }
  let request := ConnectParams.toRequest { central.params with interval, timeout }
  { advertising := [some ⟨100, [0x05, 0x22] ++ request.toBytes⟩]
    data := [some ⟨100, [0x01, 0]⟩] }

def testSilence (rate : TickRate) (interval timeout : UInt16) (holds : Link → Connection → Bool) :
    Bool :=
  testRequest 500 { tickRate := rate } {} ⟨0, 1⟩ (silentPeer interval timeout)
    fun link w => link.state.connection?.any fun c =>
      w.radio.clock.step = 1 && 20 ≤ c.intervalTicks.toNat &&
      c.intervalTicks.toNat + 2 ≤ 4294967296 &&
      link.config.tickRate.interFrameSpace.toNat + 1 ≤ 4294967296 &&
      c.context.accessAddress != advAccessAddress && holds link c &&
      LinkM.test link.step { w with polls := 2000 } fun _ w => w.radio.peer.data = []

theorem established_of_testSilence {rate : TickRate} {interval timeout : UInt16}
    {holds : Link → Connection → Bool} (h : testSilence rate interval timeout holds = true) :
    ∃ (link₀ link : Link) (w₀ w : World ScriptedPeer) (event : LinkEvent)
      (context : ConnectionContext) (c : Connection) (first : Tick), Reachable link₀ w₀ ∧
      link₀.state = .connectRequest (.ofContext context link₀.config.tickRate) ∧
      w₀.radio.clock.step = 1 ∧ link₀.Step w₀ event link w ∧
      Peer.Silent context.accessAddress w.radio.peer ∧ link.Returns w ∧
      20 ≤ (context.intervalTicks link₀.config.tickRate).toNat ∧
      link.state = .connected c ∧
      Unheard c w.radio context link₀.config.tickRate first 0 ∧
      holds link₀ (.ofContext context link₀.config.tickRate) = true := by
  obtain ⟨link₀, w₀, c₀, reached, waiting, passes⟩ := Reachable.of_testRequest h
  obtain ⟨context, rfl⟩ := reached.connectRequest waiting
  rw [waiting] at passes
  simp only [LinkState.connection?, Option.any_some, Bool.and_eq_true, decide_eq_true_eq,
    bne_iff_ne] at passes
  obtain ⟨⟨⟨⟨⟨⟨unit, long⟩, room⟩, room'⟩, data⟩, holds⟩, passes⟩ := passes
  obtain ⟨event, link, w, established, spent⟩ := Step.of_test passes
  have silent : Peer.Silent context.accessAddress w.radio.peer :=
    ScriptedPeer.silent data (of_decide_eq_true spent)
  obtain ⟨c, first, state, unheard⟩ := established.unheard_of_established waiting unit silent
  have returns := unheard.returns state long room (by rw [established.config_eq]; exact room')
  exact ⟨link₀, link, w₀, w, event, context, c, first, reached, waiting, unit, established, silent,
    returns, long, state, unheard, holds⟩

/-- A peer that falls silent does not hold a connection for ever, if its timeout leaves room in a
round of the tick counter for the greatest common divisor of the round and the interval. -/
theorem silent_connection_lost {link₀ link : Link} {w₀ w : World P} {event : LinkEvent}
    {c₀ : Connection} (reached : Reachable link₀ w₀) (waiting : link₀.state = .connectRequest c₀)
    (unit : w₀.radio.clock.step = 1) (rated : 1 ≤ link₀.config.tickRate.ticksPerUs.toNat)
    (spaced : 6 ≤ c₀.context.interval.toNat)
    (room : c₀.supervisionTicks.toNat + Nat.gcd c₀.intervalTicks.toNat 4294967296 < 4294967296)
    (established : link₀.Step w₀ event link w)
    (silent : Peer.Silent c₀.context.accessAddress w.radio.peer) (returns : link.Returns w) :
    ∃ n, link.LostWithin w n := by
  obtain ⟨context, rfl⟩ := reached.connectRequest waiting
  obtain ⟨c, first, state, unheard⟩ := established.unheard_of_established waiting unit silent
  obtain ⟨n, pos, late⟩ := ConnectionContext.exists_late_check room
  exact ⟨n, unheard.lostWithin state returns (ConnectionContext.long_intervalTicks rated spaced) pos
    late⟩

/-- At a tick a microsecond, with an interval of 12.5 ms and a timeout of 40 ms. -/
theorem silent_connection_lost_of_short_timeout :
    ∃ (link₀ link : Link) (w₀ w : World ScriptedPeer) (event : LinkEvent) (c₀ : Connection),
      Reachable link₀ w₀ ∧ link₀.state = .connectRequest c₀ ∧ w₀.radio.clock.step = 1 ∧
      1 ≤ link₀.config.tickRate.ticksPerUs.toNat ∧ 6 ≤ c₀.context.interval.toNat ∧
      c₀.supervisionTicks.toNat + Nat.gcd c₀.intervalTicks.toNat 4294967296 < 4294967296 ∧
      link₀.Step w₀ event link w ∧ Peer.Silent c₀.context.accessAddress w.radio.peer ∧
      link.Returns w ∧ ∃ n, link.LostWithin w n := by
  have passes : testSilence ⟨1⟩ 10 4 (fun link₀ c₀ =>
      1 ≤ link₀.config.tickRate.ticksPerUs.toNat && 6 ≤ c₀.context.interval.toNat &&
      c₀.supervisionTicks.toNat + Nat.gcd c₀.intervalTicks.toNat 4294967296 < 4294967296) =
        true := by
    decide +kernel
  obtain ⟨link₀, link, w₀, w, event, context, c, first, reached, waiting, unit, established, silent,
    returns, -, -, -, holds⟩ := established_of_testSilence passes
  simp only [Bool.and_eq_true, decide_eq_true_eq] at holds
  obtain ⟨⟨rated, spaced⟩, room⟩ := holds
  exact ⟨link₀, link, w₀, w, event, _, reached, waiting, unit, rated, spaced, room, established, silent,
    returns, silent_connection_lost reached waiting unit rated spaced room established silent returns⟩

/-- A timeout that does not fit the tick counter is taken for the longest that does, and nothing
is ever longer than that. The peer falls silent and the connection is held. -/
theorem silent_connection_held :
    ¬ ∀ (link₀ link : Link) (w₀ w : World ScriptedPeer) (event : LinkEvent) (c₀ : Connection),
      Reachable link₀ w₀ → link₀.state = .connectRequest c₀ → w₀.radio.clock.step = 1 →
      1 ≤ link₀.config.tickRate.ticksPerUs.toNat → 6 ≤ c₀.context.interval.toNat →
      c₀.context.interval.toNat ≤ 3200 → link₀.Step w₀ event link w →
      Peer.Silent c₀.context.accessAddress w.radio.peer → link.Returns w →
      ∃ n, link.LostWithin w n := by
  intro lost
  have passes : testSilence ⟨7⟩ 6 65535 (fun link₀ c₀ =>
      1 ≤ link₀.config.tickRate.ticksPerUs.toNat && 6 ≤ c₀.context.interval.toNat &&
      c₀.context.interval.toNat ≤ 3200 && c₀.supervisionTicks.toNat = 4294967295) = true := by
    decide +kernel
  obtain ⟨link₀, link, w₀, w, event, context, c, first, reached, waiting, unit, established, silent,
    returns, long, state, unheard, holds⟩ := established_of_testSilence passes
  simp only [Bool.and_eq_true, decide_eq_true_eq] at holds
  obtain ⟨⟨⟨rated, least⟩, most⟩, saturated⟩ := holds
  obtain ⟨n, within⟩ := lost link₀ link w₀ w event _ reached waiting unit rated least most established
    silent returns
  obtain ⟨stages, link', w', run, connected, ended⟩ := within.ends
  have spared : ∀ k d, 1 ≤ d → d ≤ 4 → context.checkAt link₀.config.tickRate k d ≤
      (context.supervisionTicks link₀.config.tickRate).toNat := by
    intro k d _ _
    have word : context.checkAt link₀.config.tickRate k d < 4294967296 :=
      Nat.mod_lt _ (by decide)
    have timeout : (context.supervisionTicks link₀.config.tickRate).toNat = 4294967295 := saturated
    omega
  have still := unheard.held state long spared run connected
  rw [ended] at still
  cases still

end Link

end BlePeripheral

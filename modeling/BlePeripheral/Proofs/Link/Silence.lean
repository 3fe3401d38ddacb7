import BlePeripheral.Proofs.Link.Ends
import BlePeripheral.Proofs.Link.Schedule
import BlePeripheral.Proofs.Time.Orbit

/-! What becomes of a connection whose peer has fallen silent. Every connection event then ends
with a check a fixed number of ticks after its anchor, so the checks go round the tick counter in
steps of one interval, and the connection is lost at the first that falls past the timeout. -/

namespace BlePeripheral

inductive Peer.Becomes {P : Type} [Peer P] (accessAddress : UInt32) : P → P → Prop
  | refl (peer : P) : Becomes accessAddress peer peer
  | listen {peer later : P} (channel : UInt8) (now : Tick)
      (rest : Becomes accessAddress (Peer.onListen peer channel accessAddress now).2 later) :
      Becomes accessAddress peer later

/-- However often it is listened to there, the peer offers no frame. -/
def Peer.Silent {P : Type} [Peer P] (accessAddress : UInt32) (peer : P) : Prop :=
  ∀ later, Becomes accessAddress peer later → ∀ channel now,
    (Peer.onListen later channel accessAddress now).1.delivery = none

theorem Peer.Silent.listen {P : Type} [Peer P] {accessAddress : UInt32} {peer : P}
    (h : Silent accessAddress peer) (channel : UInt8) (now : Tick) :
    Silent accessAddress (Peer.onListen peer channel accessAddress now).2 :=
  fun later becomes => h later (.listen channel now becomes)

theorem ScriptedPeer.silent {peer : ScriptedPeer} {accessAddress : UInt32}
    (data : accessAddress ≠ advAccessAddress) (spent : peer.data = []) :
    Peer.Silent accessAddress peer := by
  intro later becomes
  induction becomes with
  | refl peer =>
    intro channel now
    simp [Peer.onListen, data, spent, Script.next]
  | listen channel now rest ih =>
    apply ih
    simp [Peer.onListen, data, spent, Script.next]

/-- What the check of the `k`-th connection event shows if nothing has been heard so far; `d` is
for the readings since the window was found closed. -/
def ConnectionContext.checkAt (context : ConnectionContext) (rate : TickRate) (k d : Nat) : Nat :=
  (k * (context.intervalTicks rate).toNat +
    (Connection.ofContext context rate).window.closing.toNat + d) % 4294967296

def EventWindow.JustAfter (window : EventWindow) (lateness : Nat) : Prop :=
  lateness = 1 ∨ ∃ d, 2 ≤ d ∧ d ≤ 5 ∧ lateness = (window.closing.toNat + d) % 4294967296

/-- A window in which nothing is heard is found closed within three ticks. Each wait before that
ends in time or at its first reading, and an event only begins late if its window closes near the
end of the interval, so that there is time left. -/
private theorem closed_near {opening closing interval late anchored opened closed : Nat}
    (opens : opening ≤ closing) (closes : closing ≤ interval) (long : 20 ≤ interval)
    (word : interval < 4294967296)
    (before : late = 1 ∨ ∃ d, 2 ≤ d ∧ d ≤ 5 ∧ late = (closing + d) % 4294967296)
    (anchor : interval ≤ anchored ∧ (anchored = late ∨ anchored < interval + 1))
    (open_ : opening ≤ opened ∧
      (opened = (anchored + 1 + (4294967296 - interval)) % 4294967296 ∨ opened < opening + 1))
    (close : closing ≤ closed ∧ (closed = (opened + 2) % 4294967296 ∨ closed < closing + 2)) :
    closed ≤ closing + 3 := by
  omega

private theorem elapsedSince_of_anchor (now : Tick) {anchor first : Tick} {span : Nat}
    (h : anchor.toNat = (first.toNat + span) % 4294967296) :
    (elapsedSince now first).toNat = (span + (elapsedSince now anchor).toNat) % 4294967296 := by
  have := now.toNat_lt
  have := first.toNat_lt
  simp only [elapsedSince, UInt32.toNat_sub, h]
  omega

private theorem turned {time anchor interval : Nat} (i j : Nat) (low : anchor < 4294967296)
    (word : interval < 4294967296) :
    (time + (4294967296 - (anchor + interval) % 4294967296) + (i + 1 + j)) % 4294967296 =
      ((time + (4294967296 - anchor) + i) % 4294967296 + 1 + (4294967296 - interval) + j) %
        4294967296 := by
  omega

namespace Link

variable {P : Type} [Peer P]

theorem Hears.check_eq {c : Connection} {radio radio' : Radio P} {i j : Nat}
    (h : Hears c radio none radio' i j) (timed : c.IsTimed) (unit : radio.clock.step = 1)
    (long : 20 ≤ c.intervalTicks.toNat)
    (late : c.window.JustAfter (elapsedSince radio.clock.now c.anchor).toNat) :
    ∃ d, 1 ≤ d ∧ d ≤ 4 ∧ (elapsedSince radio'.clock.now c.nextEvent.anchor).toNat =
      (c.window.closing.toNat + d) % 4294967296 := by
  have step : radio.clock.step.toNat = 1 := by rw [unit]; rfl
  have opens := UInt32.le_iff_toNat_le.mp timed.opens
  have closes := UInt32.le_iff_toNat_le.mp timed.closes
  have anchored := Clock.span_le_of_elapsedAt h.anchor
  have anchoredSoon := Clock.overshoot_lt 0 1 (fun k hk => by
    rw [Nat.zero_add, Nat.mul_one]
    exact h.beforeAnchor k hk)
  have opened := Clock.span_le_of_elapsedAt h.opening
  have openedSoon := Clock.overshoot_lt 0 1 (fun k hk => by
    rw [Nat.zero_add, Nat.mul_one]
    exact h.beforeOpening k hk)
  have anchor := c.anchor.toNat_lt
  have word := c.intervalTicks.toNat_lt
  have next : c.nextEvent.anchor.toNat =
      (c.anchor.toNat + c.intervalTicks.toNat) % 4294967296 := UInt32.toNat_add _ _
  have start := Clock.toNat_elapsedSince_afterReads radio.clock c.anchor 0
  rw [Clock.afterReads_zero] at start
  cases h.window with
  | silence n early closed isOpen =>
    have shut := Clock.span_le_of_elapsedAt closed
    have shutSoon := Clock.overshoot_lt 1 2 (fun k hk => by
      rw [Nat.add_comm, Nat.mul_comm]
      exact isOpen k hk)
    simp only [armed, Radio.receive_clock, Radio.afterReads_clock, Radio.idle_clock,
      Clock.afterReads_afterReads, Clock.afterReads_step, Clock.toNat_elapsedSince_afterReads, step,
      Nat.mul_one, Nat.zero_add] at anchored anchoredSoon opened openedSoon start shut shutSoon ⊢
    have near := by
      refine closed_near opens closes long word late ⟨anchored, by omega⟩ ⟨opened, ?_⟩
        ⟨shut, by omega⟩
      refine openedSoon.imp_left ?_
      intro first
      rw [next, turned i j anchor word, first, Nat.add_zero]
    have last (k : Nat) : i + 1 + (j + 1) + (2 * k + 2) = i + 1 + (j + 1) + (2 * k + 1) + 1 := rfl
    rw [last, ← Nat.add_assoc _ _ 1]
    obtain ⟨d, check⟩ := Nat.exists_eq_add_of_le shut
    refine ⟨d + 1, by omega, by omega, ?_⟩
    rw [← Nat.mod_add_mod, check, Nat.add_assoc]

/-- What holds of a connection and the radio when `n` events have passed since the first anchor
and nothing has been heard in them, nor will be. -/
structure Unheard (c : Connection) (radio : Radio P) (context : ConnectionContext) (rate : TickRate)
    (first : Tick) (n : Nat) : Prop where
  scheduled : c.Scheduled context rate first n
  window : c.window = (Connection.ofContext context rate).window
  timeout : c.supervisionTicks = context.supervisionTicks rate
  lastRx : c.lastRx = first
  unit : radio.clock.step = 1
  late : c.window.JustAfter (elapsedSince radio.clock.now c.anchor).toNat
  silent : Peer.Silent radio.accessAddress radio.peer

theorem Unheard.timed {c : Connection} {radio : Radio P} {context : ConnectionContext}
    {rate : TickRate} {first : Tick} {n : Nat} (h : Unheard c radio context rate first n) :
    c.IsTimed := by
  have timed := Connection.isTimed_ofContext context rate
  refine ⟨by rw [h.window]; exact timed.opens, ?_⟩
  rw [h.window, h.scheduled.interval]
  exact timed.closes

theorem Hears.of_silent {c : Connection} {radio radio' : Radio P} {heard : Option RxFrame}
    {i j : Nat} (h : Hears c radio heard radio' i j)
    (silent : Peer.Silent radio.accessAddress radio.peer) :
    heard = none ∧ Peer.Silent radio'.accessAddress radio'.peer := by
  have nothing : (armed c radio (i + 1) (j + 1)).awaited = none := by
    have none := silent radio.peer (.refl _) c.nextEvent.channel
      (radio.afterReads (i + 1 + (j + 1))).clock.now
    simp only [armed, Radio.awaited, Radio.receive, Option.bind_some, Radio.record]
    exact Option.map_eq_none_iff.mpr none
  cases h.window with
  | frame n opened delivery awaited =>
    rw [nothing] at awaited
    cases awaited
  | silence => exact ⟨rfl, silent.listen _ _⟩

theorem Step.unheard {link link' : Link} {w w' : World P} {event : LinkEvent} {c : Connection}
    {context : ConnectionContext} {rate : TickRate} {first : Tick} {n : Nat}
    (h : link.Step w event link' w') (connected : link.state = .connected c)
    (unheard : Unheard c w.radio context rate first n)
    (long : 20 ≤ (context.intervalTicks rate).toNat) :
    ∃ d, 1 ≤ d ∧ d ≤ 4 ∧
      ((context.checkAt rate (n + 1) d ≤ (context.supervisionTicks rate).toNat ∧
          ∃ c', link'.state = .connected c' ∧ Unheard c' w'.radio context rate first (n + 1)) ∨
        ((context.supervisionTicks rate).toNat < context.checkAt rate (n + 1) d ∧
          link'.state = .advertising ∧ ∃ error, event = .connectionLost error)) := by
  obtain ⟨heard, radio, new, i, j, hears, reacts, -⟩ := h.of_connected connected
  obtain ⟨rfl, silent⟩ := hears.of_silent unheard.silent
  have interval := unheard.scheduled.interval
  obtain ⟨d, pos, le, check⟩ := hears.check_eq unheard.timed unheard.unit
    (by rw [interval]; exact long) unheard.late
  have next := unheard.scheduled.after none
  have elapsed := elapsedSince_of_anchor radio.clock.now next.anchor
  have clock_step : radio.clock.step = 1 := by rw [hears.clock_step, unheard.unit]
  have lastRx : c.nextEvent.lastRx = first := unheard.lastRx
  have timeout : c.nextEvent.supervisionTicks = context.supervisionTicks rate := unheard.timeout
  generalize w'.radio = radio' at reacts ⊢
  have shown : context.checkAt rate (n + 1) d = (elapsedSince radio.clock.now first).toNat := by
    have same : (c.nextEvent.after none).anchor = c.nextEvent.anchor := rfl
    rw [elapsed, same, check, unheard.window, Nat.add_mod_mod, ← Nat.add_assoc]
    rfl
  refine ⟨d, pos, le, ?_⟩
  rw [shown]
  cases reacts with
  | stands vain recent =>
    rw [lastRx, timeout, UInt32.le_iff_toNat_le] at recent
    refine .inl ⟨recent, _, rfl, next, unheard.window, timeout, lastRx, clock_step,
      .inr ⟨d + 1, by omega, by omega, ?_⟩, silent⟩
    have same : (c.nextEvent.after none).anchor = c.nextEvent.anchor := rfl
    rw [Connection.after_window, Radio.afterReads_clock, same, Clock.toNat_elapsedSince_later,
      clock_step, check, Nat.mod_add_mod]
    rfl
  | lost vain late =>
    rw [lastRx, timeout, UInt32.lt_iff_toNat_lt] at late
    exact .inr ⟨late, rfl, _, rfl⟩

theorem Run.unheard {link link' : Link} {w w' : World P} {stages : List Stage} {c : Connection}
    {context : ConnectionContext} {rate : TickRate} {first : Tick} {n : Nat}
    (run : Run link w stages link' w') (start : link.state = .connected c)
    (connected : ∀ stage ∈ stages, stage.before.state.isConnected = true)
    (unheard : Unheard c w.radio context rate first n)
    (long : 20 ≤ (context.intervalTicks rate).toNat) :
    (∀ k, k + 1 < stages.length → ∃ d, 1 ≤ d ∧ d ≤ 4 ∧
      context.checkAt rate (n + k + 1) d ≤ (context.supervisionTicks rate).toNat) ∧
    ((∃ c', link'.state = .connected c' ∧
        Unheard c' w'.radio context rate first (n + stages.length)) ∨
      (link'.state = .advertising ∧
        (∃ k d, 1 ≤ d ∧ d ≤ 4 ∧
          (context.supervisionTicks rate).toNat < context.checkAt rate k d) ∧
        ∃ error, stages.getLast?.map Stage.event = some (.connectionLost error))) := by
  induction run generalizing c n with
  | nil link w => exact ⟨nofun, .inl ⟨c, start, unheard⟩⟩
  | @cons link next link' w u w' event stages step rest ih =>
    have later := (List.forall_mem_cons.mp connected).2
    obtain ⟨d, pos, le, ⟨recent, c₁, state, unheard₁⟩ | ⟨late, ended, error, lost⟩⟩ :=
      step.unheard start unheard long
    · obtain ⟨spared, outcome⟩ := ih state later unheard₁
      have length : n + 1 + stages.length = n + (stages.length + 1) := by omega
      rw [length] at outcome
      refine ⟨?_, outcome.imp_right ?_⟩
      · intro k bound
        cases k with
        | zero => exact ⟨d, pos, le, recent⟩
        | succ k =>
          have index : n + (k + 1) + 1 = n + 1 + k + 1 := by omega
          rw [index]
          exact spared k (by simpa using bound)
      · rintro ⟨ended, late, error, last⟩
        obtain ⟨stage, same, lost⟩ := Option.map_eq_some_iff.mp last
        exact ⟨ended, late, error, by rw [List.getLast?_cons, same, ← lost]; rfl⟩
    · obtain ⟨rfl, rfl, -⟩ := rest.eq_nil_of_ended later (by rw [ended]; rfl)
      refine ⟨?_, .inr ⟨ended, ⟨n + 1, d, pos, le, late⟩, error, by rw [lost]; rfl⟩⟩
      intro k bound
      simp at bound

end Link

end BlePeripheral

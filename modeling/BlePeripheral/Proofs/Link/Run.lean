import BlePeripheral.Air.Script
import BlePeripheral.Proofs.Link.Advertising
import BlePeripheral.Proofs.Link.Establishment

/-! Runs of a link: steps that return, one after the other, each with as many polls as it
takes. A run is kept with its stages, so that a property of runs may speak of every step. -/

namespace BlePeripheral

structure Connection.IsTimed (c : Connection) : Prop where
  opens : c.window.opening ≤ c.window.closing
  closes : c.window.closing ≤ c.intervalTicks

theorem Connection.isTimed_ofContext (context : ConnectionContext) (rate : TickRate) :
    (ofContext context rate).IsTimed :=
  ⟨EventWindow.opening_within_le _ _ _, EventWindow.closing_within_le _ _ _⟩

theorem Connection.IsTimed.after {c : Connection} (h : c.IsTimed) (heard : Option RxFrame) :
    (c.nextEvent.after heard).IsTimed := by
  constructor
  · rw [Connection.after_window]
    exact h.opens
  · rw [Connection.after_window, Connection.after_intervalTicks]
    exact h.closes

theorem LinkState.exists_of_isConnected {state : LinkState} (h : state.isConnected = true) :
    ∃ c, state = .connected c := by
  cases state with
  | connected c => exact ⟨c, rfl⟩
  | advertising => cases h
  | connectRequest c => cases h

theorem LinkState.exists_of_phase {state : LinkState} (h : state.phase = .connectRequest) :
    ∃ c, state = .connectRequest c := by
  cases state with
  | connectRequest c => exact ⟨c, rfl⟩
  | advertising => cases h
  | connected c => cases h

structure Stage where
  before : Link
  event : LinkEvent
  after : Link

namespace Link

open LinkM

variable {P : Type} [Peer P]

omit [Peer P] in
theorem start_eq_ok {config : LinkConfig} {controls : ControlTable} {radio : Radio P} {link : Link}
    {w : World P} :
    start config controls radio = .ok (link, w) ↔ ∃ prepared, config.prepare = .ok prepared ∧
      link = { config, prepared, controls } ∧
      w = {
        radio := radio.configure advAccessAddress advCrcInit config.phy
        notices := #[.advertisingAs config.address config.mode config.advIntervalMs] } := by
  unfold start
  cases prepares : config.prepare with
  | error e => simp [bind, Except.bind]
  | ok prepared =>
    simp only [bind, Except.bind, pure, Except.pure, Except.ok.injEq, Prod.mk.injEq,
      exists_eq_left']
    constructor <;> rintro ⟨rfl, rfl⟩ <;> exact ⟨rfl, rfl⟩

/-- A step that returns, given the polls for it. -/
def Step (link : Link) (w : World P) (event : LinkEvent) (link' : Link) (w' : World P) : Prop :=
  ∃ polls, link.step { w with polls } = .ok (event, link') w'

inductive Run : Link → World P → List Stage → Link → World P → Prop
  | nil (link : Link) (w : World P) : Run link w [] link w
  | cons {link link' link'' : Link} {w w' w'' : World P} {event : LinkEvent} {stages : List Stage}
      (step : link.Step w event link' w') (rest : Run link' w' stages link'' w'') :
      Run link w (⟨link, event, link'⟩ :: stages) link'' w''

theorem Run.snoc {link link' link'' : Link} {w w' w'' : World P} {stages : List Stage}
    {event : LinkEvent} (run : Run link w stages link' w') (step : link'.Step w' event link'' w'') :
    Run link w (stages ++ [⟨link', event, link''⟩]) link'' w'' := by
  induction run with
  | nil => exact .cons step (.nil _ _)
  | cons first rest ih => exact .cons first (ih step)

theorem Run.eq_nil_of_ended {link link' : Link} {w w' : World P} {stages : List Stage}
    (run : Run link w stages link' w')
    (connected : ∀ stage ∈ stages, stage.before.state.isConnected = true)
    (ended : link.state.isConnected = false) : stages = [] ∧ link' = link ∧ w' = w := by
  cases run with
  | nil => exact ⟨rfl, rfl, rfl⟩
  | cons step rest =>
    have still := connected _ List.mem_cons_self
    dsimp only at still
    rw [ended] at still
    cases still

/-- The states that a link gets into: by its own steps, while its user may let time pass,
change the handlers or exchange the peer in between. -/
inductive Reachable : Link → World P → Prop
  | start {config : LinkConfig} {controls : ControlTable} {radio : Radio P} {link : Link}
      {w : World P} (started : start config controls radio = .ok (link, w)) : Reachable link w
  | step {link link' : Link} {w w' : World P} {event : LinkEvent} (reached : Reachable link w)
      (step : link.Step w event link' w') : Reachable link' w'
  | advance {link : Link} {w : World P} (ticks : UInt32) (reached : Reachable link w) :
      Reachable link { w with radio := { w.radio with clock := w.radio.clock.advance ticks } }
  | handlers {link : Link} {w : World P} (controls : ControlTable) (reached : Reachable link w) :
      Reachable { link with controls } w
  | peer {link : Link} {w : World P} (peer : P) (reached : Reachable link w) :
      Reachable link { w with radio := { w.radio with peer } }

theorem step_eq_ok {link link' : Link} {w w' : World P} {event : LinkEvent}
    (h : link.step w = .ok (event, link') w') :
    ∃ u, link.act w = .ok (event, link') u ∧ w'.radio = u.radio ∧ w'.dispatched = u.dispatched := by
  unfold step at h
  obtain ⟨⟨event', next⟩, u, acted, h⟩ := bind_eq_ok.mp h
  refine ⟨u, ?_⟩
  dsimp only at h
  split at h
  · obtain ⟨_, u', noted, h⟩ := bind_eq_ok.mp h
    rw [note_apply] at noted
    cases noted
    obtain ⟨same, rfl⟩ := pure_eq_ok.mp h
    cases same
    exact ⟨acted, rfl, rfl⟩
  · obtain ⟨same, rfl⟩ := pure_eq_ok.mp h
    cases same
    exact ⟨acted, rfl, rfl⟩

theorem Step.advertises {link link' : Link} {w w' : World P} {event : LinkEvent}
    (h : link.Step w event link' w') (advertising : link.state = .advertising) :
    ∃ n heard, link.Waited w.radio.clock n ∧
      link.Advertises (w.radio.afterReads n) heard event link' w'.radio ∧
      link.Reports (P := P) heard event link' := by
  obtain ⟨polls, h⟩ := h
  obtain ⟨u, acted, same, -⟩ := step_eq_ok h
  simp only [act, advertising] at acted
  rw [same]
  have done := advertise_eq_ok acted
  exact done

theorem Step.of_advertising {link link' : Link} {w w' : World P} {event : LinkEvent}
    (h : link.Step w event link' w') (advertising : link.state = .advertising) :
    ∃ n heard, link.Advertises (w.radio.afterReads n) heard event link' w'.radio := by
  obtain ⟨n, heard, -, advertises, -⟩ := h.advertises advertising
  exact ⟨n, heard, advertises⟩

theorem Step.of_connectRequest {link link' : Link} {w w' : World P} {event : LinkEvent}
    {c : Connection} (h : link.Step w event link' w') (waiting : link.state = .connectRequest c) :
    ∃ frame radio n m,
      radio = (((w.radio.configure c.context.accessAddress c.context.crcInit
          link.config.phy).receive c.channel).2.afterReads (n + 1)).deliver frame ∧
      w'.radio = ((radio.afterReads (m + 1)).transmit c.channel
          (c.ack.afterFrame frame.bytes).response).afterReads 1 ∧
      w'.dispatched = w.dispatched ∧
      link' = { link with state := link'.state } ∧
      link'.state = .connected (c.established frame (radio.clock.afterReads (m + 1)).now) := by
  obtain ⟨polls, h⟩ := h
  obtain ⟨u, acted, sameRadio, sameDispatched⟩ := step_eq_ok h
  simp only [act, waiting] at acted
  rw [sameRadio, sameDispatched]
  have done := establish_eq_ok acted
  exact done

theorem Step.setsUp {link link' : Link} {w w' : World P} {event : LinkEvent} {c : Connection}
    (h : link.Step w event link' w') (waiting : link.state = .connectRequest c) :
    ∃ frame n m, link.Establishes c w.radio frame w'.radio n m ∧
      link' = { link with state := .connected (c.established frame
        ((link.greeted c w.radio frame n).clock.afterReads (m + 1)).now) } := by
  obtain ⟨polls, h⟩ := h
  obtain ⟨u, acted, sameRadio, -⟩ := step_eq_ok h
  simp only [act, waiting] at acted
  rw [sameRadio]
  obtain ⟨frame, n, m, establishes, -, same⟩ := establish_returns acted
  exact ⟨frame, n, m, establishes, same⟩

theorem Step.event_of_connectRequest {link link' : Link} {w w' : World P} {event : LinkEvent}
    {c : Connection} (h : link.Step w event link' w') (waiting : link.state = .connectRequest c) :
    event = .connected c.context.accessAddress c.channel := by
  obtain ⟨polls, h⟩ := h
  obtain ⟨u, acted, -, -⟩ := step_eq_ok h
  simp only [act, waiting] at acted
  exact establish_event_eq acted

theorem Step.of_connected {link link' : Link} {w w' : World P} {event : LinkEvent} {c : Connection}
    (h : link.Step w event link' w') (connected : link.state = .connected c) :
    ∃ heard radio new i j, Hears c w.radio heard radio i j ∧
      link.Reacts c.nextEvent radio heard event link' w'.radio new ∧
      w'.dispatched.toList = w.dispatched.toList ++ new := by
  obtain ⟨polls, h⟩ := h
  obtain ⟨u, acted, sameRadio, sameDispatched⟩ := step_eq_ok h
  simp only [act, connected] at acted
  rw [sameRadio, sameDispatched]
  have done := connectionEvent_eq_ok acted
  exact done

theorem Reacts.link_eq {link link' : Link} {c : Connection} {radio radio' : Radio P}
    {heard : Option RxFrame} {event : LinkEvent} {new : List ControlPdu}
    (h : link.Reacts c radio heard event link' radio' new) :
    link' = { link with state := .connected (c.after heard) } ∨
      link' = { link with state := .advertising } := by
  cases h with
  | stands => exact .inl rfl
  | lost => exact .inr rfl
  | accepted => exact .inl rfl
  | terminated => exact .inr rfl

/-- Makes up to `n` steps while the link is connected, each with the given polls, and tests
where they lead. -/
def testRun (polls : Nat) (holds : Link → World P → Bool) : Nat → Link → World P → Bool
  | 0, link, w => holds link w
  | n + 1, link, w =>
    link.state.isConnected &&
      LinkM.test link.step { w with polls } fun outcome w => testRun polls holds n outcome.2 w

theorem Step.of_test {link : Link} {w : World P} {polls : Nat}
    {holds : LinkEvent × Link → World P → Bool}
    (h : LinkM.test link.step { w with polls } holds = true) :
    ∃ event link' w', link.Step w event link' w' ∧ holds (event, link') w' = true := by
  obtain ⟨⟨event, link'⟩, w', made, holds⟩ := LinkM.eq_ok_of_test h
  exact ⟨event, link', w', ⟨polls, made⟩, holds⟩

theorem Run.of_test {link : Link} {w : World P} {polls n : Nat} {holds : Link → World P → Bool}
    (h : testRun polls holds n link w = true) :
    ∃ stages link' w', Run link w stages link' w' ∧ stages.length = n ∧
      (∀ stage ∈ stages, stage.before.state.isConnected = true) ∧ holds link' w' = true := by
  induction n generalizing link w with
  | zero => exact ⟨[], link, w, .nil link w, rfl, by simp, h⟩
  | succ n ih =>
    rw [testRun, Bool.and_eq_true] at h
    obtain ⟨event, next, u, step, rest⟩ := Step.of_test h.2
    obtain ⟨stages, link', w', run, length, connected, holds⟩ := ih rest
    refine ⟨⟨link, event, next⟩ :: stages, link', w', .cons step run, ?_, ?_, holds⟩
    · rw [List.length_cons, length]
    · intro stage member
      cases member with
      | head => exact h.1
      | tail _ member => exact connected stage member

def testEvents (polls : Nat) (holds : Link → World P → Bool) :
    List LinkEvent → Link → World P → Bool
  | [], link, w => holds link w
  | event :: events, link, w =>
    LinkM.test link.step { w with polls } fun outcome w =>
      outcome.1 = event && testEvents polls holds events outcome.2 w

theorem Run.of_testEvents {link : Link} {w : World P} {polls : Nat} {events : List LinkEvent}
    {holds : Link → World P → Bool} (h : testEvents polls holds events link w = true) :
    ∃ stages link' w', Run link w stages link' w' ∧ stages.map Stage.event = events ∧
      holds link' w' = true := by
  induction events generalizing link w with
  | nil => exact ⟨[], link, w, .nil link w, rfl, h⟩
  | cons event events ih =>
    obtain ⟨event', next, u, step, rest⟩ := Step.of_test h
    rw [Bool.and_eq_true, decide_eq_true_eq] at rest
    obtain ⟨rfl, rest⟩ := rest
    obtain ⟨stages, link', w', run, same, holds⟩ := ih rest
    exact ⟨_, link', w', .cons step run, by rw [List.map_cons, same], holds⟩

theorem Step.setup_eq {link link' : Link} {w w' : World P} {event : LinkEvent}
    (h : link.Step w event link' w') : link'.config = link.config ∧
      link'.prepared = link.prepared ∧ link'.controls = link.controls := by
  cases state : link.state with
  | advertising =>
    obtain ⟨_, _, advertises⟩ := h.of_advertising state
    rw [advertises.link_eq]
    unfold withRequested
    split <;> exact ⟨rfl, rfl, rfl⟩
  | connectRequest c =>
    obtain ⟨_, _, _, _, -, -, -, same, -⟩ := h.of_connectRequest state
    rw [same]
    exact ⟨rfl, rfl, rfl⟩
  | connected c =>
    obtain ⟨_, _, _, _, _, -, reacts, -⟩ := h.of_connected state
    obtain rfl | rfl := reacts.link_eq <;> exact ⟨rfl, rfl, rfl⟩

theorem Step.config_eq {link link' : Link} {w w' : World P} {event : LinkEvent}
    (h : link.Step w event link' w') : link'.config = link.config :=
  h.setup_eq.1

theorem Run.config_eq {link link' : Link} {w w' : World P} {stages : List Stage}
    (run : Run link w stages link' w') : link'.config = link.config := by
  induction run with
  | nil => rfl
  | cons step rest ih => rw [ih, step.config_eq]

theorem Reachable.prepares {link : Link} {w : World P} (h : Reachable link w) :
    link.config.prepare = .ok link.prepared := by
  induction h with
  | start started =>
    obtain ⟨_, prepares, rfl, rfl⟩ := start_eq_ok.mp started
    exact prepares
  | step _ step ih =>
    obtain ⟨config, prepared, -⟩ := step.setup_eq
    rw [config, prepared]
    exact ih
  | advance ticks _ ih => exact ih
  | handlers controls _ ih => exact ih
  | peer peer _ ih => exact ih

theorem Step.requested {link link' : Link} {w w' : World P} {event : LinkEvent} {c : Connection}
    (h : link.Step w event link' w') (advertising : link.state = .advertising)
    (waiting : link'.state = .connectRequest c) :
    ∃ frame context, w'.radio.frames = w.radio.frames ++ [frame] ∧
      link.requested? frame.bytes = some context ∧
      c = Connection.ofContext context link.config.tickRate := by
  obtain ⟨n, heard, advertises⟩ := h.of_advertising advertising
  obtain ⟨log, journal, logged⟩ := advertises.journal_eq
  have link_eq := advertises.link_eq
  cases asked : heard.bind fun frame => link.requested? frame.bytes with
  | none =>
    rw [link_eq, asked, withRequested, advertisedAt, advertising] at waiting
    cases waiting
  | some context =>
    rw [link_eq, asked] at waiting
    cases waiting
    obtain ⟨frame, rfl, asked⟩ := Option.bind_eq_some_iff.mp asked
    refine ⟨frame, context, ?_, asked, rfl⟩
    rw [Radio.frames, journal, List.filterMap_append, logged.frames_eq]
    rfl

theorem Step.connectRequest {link link' : Link} {w w' : World P} {event : LinkEvent}
    {c : Connection} (h : link.Step w event link' w') (waiting : link'.state = .connectRequest c) :
    ∃ context, c = Connection.ofContext context link.config.tickRate := by
  cases state : link.state with
  | advertising =>
    obtain ⟨_, context, -, -, rfl⟩ := h.requested state waiting
    exact ⟨context, rfl⟩
  | connectRequest c' =>
    obtain ⟨_, _, _, _, -, -, -, -, connected⟩ := h.of_connectRequest state
    rw [waiting] at connected
    cases connected
  | connected c' =>
    obtain ⟨_, _, _, _, _, -, reacts, -⟩ := h.of_connected state
    obtain rfl | rfl := reacts.link_eq <;> cases waiting

theorem Reachable.connectRequest {link : Link} {w : World P} {c : Connection}
    (h : Reachable link w) (waiting : link.state = .connectRequest c) :
    ∃ context, c = Connection.ofContext context link.config.tickRate := by
  induction h generalizing c with
  | start started =>
    obtain ⟨_, _, rfl, rfl⟩ := start_eq_ok.mp started
    cases waiting
  | step _ step ih =>
    rw [step.config_eq]
    exact step.connectRequest waiting
  | advance ticks _ ih => exact ih waiting
  | handlers controls _ ih => exact ih waiting
  | peer peer _ ih => exact ih waiting

def connectingPeer (data : Script) : ScriptedPeer where
  advertising := [some ⟨100, [0x05, 0x22, 0xb0, 0xec, 0xa7, 0x55, 0xd4, 0x6b, 0x66, 0x55, 0x44, 0x33,
    0x22, 0x11, 0x3a, 0x4b, 0x65, 0x50, 0x56, 0x34, 0x12, 0x02, 0x04, 0x00, 0x0a, 0x00, 0x00, 0x00,
    0x04, 0x00, 0xff, 0xff, 0xff, 0xff, 0x1f, 0x07]⟩]
  data

def testFrom (config : LinkConfig) (controls : ControlTable) (clock : Clock) (peer : P)
    (holds : Link → World P → Bool) : Bool :=
  match start config controls { clock, peer } with
  | .ok outcome => holds outcome.1 outcome.2
  | .error _ => false

omit [Peer P] in
theorem start_of_testFrom {config : LinkConfig} {controls : ControlTable} {clock : Clock}
    {peer : P} {holds : Link → World P → Bool}
    (h : testFrom config controls clock peer holds = true) :
    ∃ link w, start config controls { clock, peer } = .ok (link, w) ∧ holds link w = true := by
  unfold testFrom at h
  split at h
  · rename_i outcome started
    exact ⟨outcome.1, outcome.2, started, h⟩
  · cases h

def testRequest (polls : Nat) (config : LinkConfig) (controls : ControlTable) (clock : Clock)
    (peer : ScriptedPeer) (holds : Link → World ScriptedPeer → Bool) : Bool :=
  testFrom config controls clock peer fun link w =>
    LinkM.test link.step { w with polls } fun outcome w =>
      outcome.2.state.phase = .connectRequest && holds outcome.2 w

theorem Reachable.of_testRequest {polls : Nat} {config : LinkConfig} {controls : ControlTable}
    {clock : Clock} {peer : ScriptedPeer} {holds : Link → World ScriptedPeer → Bool}
    (h : testRequest polls config controls clock peer holds = true) :
    ∃ link w c, Reachable link w ∧ link.state = .connectRequest c ∧ holds link w = true := by
  obtain ⟨initial, w, started, passed⟩ := start_of_testFrom h
  obtain ⟨event, link, w, step, passed⟩ := Step.of_test passed
  rw [Bool.and_eq_true, decide_eq_true_eq] at passed
  obtain ⟨c, state⟩ := LinkState.exists_of_phase passed.1
  exact ⟨link, w, c, .step (.start started) step, state, passed.2⟩

def testStart (controls : ControlTable) (data : Script) (first : Nat)
    (holds : Link → World ScriptedPeer → Bool) : Bool :=
  testFrom {} controls ⟨first, 100⟩ (connectingPeer data) holds

theorem start_of_test {controls : ControlTable} {data : Script} {first : Nat}
    {holds : Link → World ScriptedPeer → Bool} (h : testStart controls data first holds = true) :
    ∃ link w, start {} controls { clock := ⟨first, 100⟩, peer := connectingPeer data } =
      .ok (link, w) ∧ holds link w = true :=
  start_of_testFrom h

def testConnecting (controls : ControlTable) (data : Script)
    (holds : Link → World ScriptedPeer → Bool) : Bool :=
  testRequest 10 {} controls ⟨0, 100⟩ (connectingPeer data) holds

theorem Reachable.of_test {controls : ControlTable} {data : Script}
    {holds : Link → World ScriptedPeer → Bool} (h : testConnecting controls data holds = true) :
    ∃ link w c, Reachable link w ∧ link.state = .connectRequest c ∧ holds link w = true :=
  Reachable.of_testRequest h

end Link

end BlePeripheral

import BlePeripheral.Proofs.Link.Mirror

/-! What a link and its radio have done before a connection, the connection does not show. Two
links that have been set up alike and take the same request behave the same until the connection
has ended, whatever either has been through. -/

namespace BlePeripheral

namespace Link

variable {P Q : Type} [Peer P] [Peer Q]

theorem Step.state_eq_of_frame {link next : Link} {w u : World P} {event : LinkEvent}
    {frame : RxFrame} (h : link.Step w event next u) (advertising : link.state = .advertising)
    (came : u.radio.frames = w.radio.frames ++ [frame]) :
    next.state = match link.requested? frame.bytes with
      | none => .advertising
      | some context => .connectRequest (.ofContext context link.config.tickRate) := by
  obtain ⟨n, heard, advertises⟩ := h.of_advertising advertising
  obtain ⟨log, journal, logged⟩ := advertises.journal_eq
  rw [Radio.frames, journal, List.filterMap_append, logged.frames_eq] at came
  have heard_eq : heard.toList = [frame] := List.append_cancel_left came
  obtain rfl := Option.toList_eq_singleton_iff.mp heard_eq
  rw [advertises.link_eq]
  change (withRequested _ (link.requested? frame.bytes)).state = _
  cases link.requested? frame.bytes with
  | none => exact advertising
  | some context => rfl

/-- Until its connection has ended, whatever the first link does the second does as well when it
waits as long before each step: it reports the same events, has the same connections and makes
the same use of its radio. -/
structure Retraces (link : Link) (w : World P) (link' : Link) (w' : World Q) : Prop where
  follows : ∀ {turns : List Turn} {last : Link} {v : World P}, Walk link w turns last v →
    (∀ turn ∈ turns, turn.stage.before.state ≠ .advertising) →
    ∃ turns' last' v', Walk link' w' turns' last' v' ∧
      turns'.map Turn.wait = turns.map Turn.wait
  agrees : ∀ {turns turns' : List Turn} {last last' : Link} {v : World P} {v' : World Q},
    Walk link w turns last v → (∀ turn ∈ turns, turn.stage.before.state ≠ .advertising) →
    Walk link' w' turns' last' v' → turns'.map Turn.wait = turns.map Turn.wait →
    List.Forall₂ Turn.Agrees turns turns' ∧ last'.state = last.state ∧
      ∃ log log', v.radio.journal.toList = w.radio.journal.toList ++ log ∧
        v'.radio.journal.toList = w'.radio.journal.toList ++ log' ∧
        log'.map (RadioEvent.shown 0) = log.map (RadioEvent.shown 0)

theorem retraces_of_mirrors {link link' : Link} {w : World P} {w' : World Q}
    (twins : link.Twins link')
    (mirrors : w.radio.Mirrors w.radio.journal.toList w'.radio.journal.toList w'.radio) :
    link.Retraces w link' w' := by
  constructor
  · intro turns last v walk busy
    exact walk.mirrored busy twins mirrors
  · intro turns turns' last last' v v' walk busy walk' waits
    obtain ⟨agree, state, mirrors'⟩ := walk.matched walk' waits busy twins mirrors
    exact ⟨agree, state, mirrors'.journal⟩

/-- Two links with one configuration and the same handlers take the same request, each after a
past of its own. They set up the same connection, and do the same with it for as long as it
lasts if their clocks agree and their peers behave alike. -/
theorem connection_forgets_past {config : LinkConfig} {controls controls' : ControlTable}
    {clock clock' : Clock} {peer : P} {peer' : Q} {first link next first' link' next' : Link}
    {w₀ w u : World P} {w₀' w' u' : World Q} {past past' : List Stage} {event event' : LinkEvent}
    {frame frame' : RxFrame}
    (started : start config controls { clock, peer } = .ok (first, w₀))
    (started' : start config controls' { clock := clock', peer := peer' } = .ok (first', w₀'))
    (course : Course first w₀ past link w) (course' : Course first' w₀' past' link' w')
    (handlers : link'.controls = link.controls)
    (advertising : link.state = .advertising) (advertising' : link'.state = .advertising)
    (step : link.Step w event next u) (step' : link'.Step w' event' next' u')
    (came : u.radio.frames = w.radio.frames ++ [frame])
    (came' : u'.radio.frames = w'.radio.frames ++ [frame'])
    (bytes : frame'.bytes = frame.bytes) (asked : next.state.phase = .connectRequest) :
    ∃ c, next.state = .connectRequest c ∧ next'.state = .connectRequest c ∧
      (u'.radio.clock.now = u.radio.clock.now → u'.radio.clock.step = u.radio.clock.step →
        Peer.Alike u.radio.peer u'.radio.peer →
        next.Retraces u next' u' ∧ next'.Retraces u' next u) := by
  have config_eq : link'.config = link.config := by
    obtain ⟨_, -, rfl, -⟩ := start_eq_ok.mp started
    obtain ⟨_, -, rfl, -⟩ := start_eq_ok.mp started'
    rw [course.config_eq, course'.config_eq]
  have state_eq : next'.state = next.state := by
    rw [step.state_eq_of_frame advertising came, step'.state_eq_of_frame advertising' came', bytes]
    unfold requested?
    rw [config_eq]
  have twins : next.Twins next' := by
    obtain ⟨config, -, controls⟩ := step.setup_eq
    obtain ⟨config', -, controls'⟩ := step'.setup_eq
    exact ⟨by rw [config', config_eq, config], by rw [controls', handlers, controls], state_eq⟩
  obtain ⟨c, requested⟩ := LinkState.exists_of_phase asked
  refine ⟨c, requested, state_eq.trans requested, ?_⟩
  intro now pace alike
  have rests := (step.atRest (course.disciplined (atRest_of_start started)).1).rests
  have rests' := (step'.atRest (course'.disciplined (atRest_of_start started')).1).rests
  have mirrors : u.radio.Mirrors u.radio.journal.toList u'.radio.journal.toList u'.radio := {
    clock := ⟨now, pace⟩
    peer := alike
    journal := ⟨[], [], (List.append_nil _).symm, (List.append_nil _).symm, rfl⟩
    accessAddress := by rw [rests.tuned, rests'.tuned, state_eq]
    listening := by rw [rests.quiet, rests'.quiet] }
  exact ⟨retraces_of_mirrors twins mirrors, retraces_of_mirrors twins.symm mirrors.symm⟩

/-- The first link has just been started, the second has had a connection that has been
terminated. The connection that they take then misses a window before it is terminated too. -/
theorem connection_forgets_past_of_second_connection :
    ∃ (controls : ControlTable) (clock clock' : Clock) (peer peer' : ScriptedPeer)
      (first next first' link' next' : Link) (w u w₀' w' u' : World ScriptedPeer)
      (past' : List Stage) (event event' : LinkEvent) (frame frame' : RxFrame) (c : Connection)
      (turns turns' : List Turn) (last last' : Link) (v v' : World ScriptedPeer),
      start {} controls { clock, peer } = .ok (first, w) ∧
      start {} controls { clock := clock', peer := peer' } = .ok (first', w₀') ∧
      Course first' w₀' past' link' w' ∧ past'.length = 4 ∧
      first.Step w event next u ∧ link'.Step w' event' next' u' ∧
      u.radio.frames = w.radio.frames ++ [frame] ∧ u'.radio.frames = w'.radio.frames ++ [frame'] ∧
      frame'.bytes = frame.bytes ∧
      next.state = .connectRequest c ∧ next'.state = .connectRequest c ∧
      next.Retraces u next' u' ∧ next'.Retraces u' next u ∧
      Walk next u turns last v ∧ Walk next' u' turns' last' v' ∧
      List.Forall₂ Turn.Agrees turns turns' ∧
      turns.map (fun turn => (turn.wait, turn.event)) =
        [(0, .connected 0x50654b3a 7), (0, .dataReceived 14 .dataContinue 0 false),
          (7, .eventMissed (.windowMiss 2) 1), (0, .terminated (some 0x13))] := by
  have passes : testFrom {} (({} : ControlTable).register .terminateInd .terminateOnRequest)
      ⟨500100, 100⟩
      (connectingPeer
        [some ⟨100, [0x01, 0]⟩, some ⟨100, [0x0d, 0]⟩, none, some ⟨100, [0x03, 2, 0x02, 0x13]⟩])
      (fun first w => LinkM.test first.step { w with polls := 10 } fun outcome u =>
        outcome.2.state.phase = .connectRequest &&
        (testTurns 500 (fun _ _ => true)
          [(0, .connected 0x50654b3a 7), (0, .dataReceived 14 .dataContinue 0 false),
            (7, .eventMissed (.windowMiss 2) 1), (0, .terminated (some 0x13))] outcome.2 u &&
        testFrom {} (({} : ControlTable).register .terminateInd .terminateOnRequest) ⟨0, 100⟩
          { advertising := (connectingPeer []).advertising ++ (connectingPeer []).advertising
            data := [some ⟨100, [0x01, 0]⟩, none, some ⟨100, [0x0f, 2, 0x02, 0x13]⟩] ++
              [some ⟨100, [0x01, 0]⟩, some ⟨100, [0x0d, 0]⟩, none,
                some ⟨100, [0x03, 2, 0x02, 0x13]⟩] }
          (testTurns 500
            (fun link' w' => link'.state = .advertising &&
              LinkM.test link'.step { w'.later 468700 with polls := 10 } fun outcome' u' =>
                outcome'.2.state.phase = .connectRequest &&
                (u'.radio.frames.getLast? = u.radio.frames.getLast? &&
                  (u'.radio.clock = u.radio.clock && u'.radio.peer = u.radio.peer)))
            [(0, .connectRequested (.ofAir [0xb0, 0xec, 0xa7, 0x55, 0xd4, 0x6b]) 0x50654b3a 7),
              (0, .connected 0x50654b3a 7), (0, .eventMissed (.windowMiss 1) 1),
              (0, .terminated (some 0x13))]))) = true := by
    decide +kernel
  obtain ⟨first, w, started, passes⟩ := start_of_testFrom passes
  obtain ⟨event, next, u, step, passes⟩ := Step.of_test passes
  simp only [Bool.and_eq_true, decide_eq_true_eq] at passes
  obtain ⟨asked, walks, passes⟩ := passes
  obtain ⟨turns, last, v, walk, events, -⟩ := Walk.of_testTurns walks
  obtain ⟨first', w₀', started', passes⟩ := start_of_testFrom passes
  obtain ⟨past', link', w', before, events', passes⟩ := Walk.of_testTurns passes
  rw [Bool.and_eq_true, decide_eq_true_eq] at passes
  obtain ⟨advertising', passes⟩ := passes
  obtain ⟨event', next', u', step', passes⟩ := Step.of_test passes
  simp only [Bool.and_eq_true, decide_eq_true_eq] at passes
  obtain ⟨asked', frames, clocks, peers⟩ := passes
  have advertising : first.state = .advertising := by
    obtain ⟨_, -, rfl, -⟩ := start_eq_ok.mp started
    rfl
  have handlers : link'.controls = first.controls := by
    obtain ⟨_, -, rfl, -⟩ := start_eq_ok.mp started
    obtain ⟨_, -, rfl, -⟩ := start_eq_ok.mp started'
    exact before.controls_eq
  obtain ⟨_, waiting⟩ := LinkState.exists_of_phase asked
  obtain ⟨_, waiting'⟩ := LinkState.exists_of_phase asked'
  obtain ⟨frame, _, came, -, -⟩ := step.requested advertising waiting
  obtain ⟨frame', _, came', -, -⟩ := step'.requested advertising' waiting'
  rw [came, came', List.getLast?_concat, List.getLast?_concat, Option.some.injEq] at frames
  have bytes : frame'.bytes = frame.bytes := by rw [frames]
  obtain ⟨c, state, state', retraces⟩ := connection_forgets_past started started'
    (.done (.refl first w)) (before.course.later 468700) handlers advertising advertising' step
    step' came came' bytes asked
  obtain ⟨same, same'⟩ := retraces (by rw [clocks]) (by rw [clocks]) (peers ▸ .refl _)
  have busy : ∀ turn ∈ turns, turn.stage.before.state ≠ .advertising := by
    have quiet : (turns.map fun turn => (turn.wait, turn.event)).all
        (fun turn => !turn.2.keepsAdvertising && !turn.2.isRequest) = true := by
      rw [events]
      rfl
    simp only [List.all_map, List.all_eq_true, Function.comp_apply, Bool.and_eq_true,
      Bool.not_eq_true'] at quiet
    intro turn member
    exact (walk.next turn member).ne_advertising (quiet turn member).1 (quiet turn member).2
  obtain ⟨turns', last', v', walk', waits⟩ := same.follows walk busy
  obtain ⟨agree, -⟩ := same.agrees walk busy walk' waits
  have length : (past'.map Turn.stage).length = 4 := by simpa using congrArg List.length events'
  exact ⟨_, _, _, _, _, first, next, first', link', next', w, u, w₀', _, u', _, event, event', frame,
    frame', c, turns, turns', last, last', v, v', started, started', before.course.later 468700,
    length, step, step', came, came', bytes, state, state', same, same', walk, walk', agree, events⟩

end Link

end BlePeripheral

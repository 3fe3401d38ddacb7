import BlePeripheral.Proofs.Link.Journal

/-! The life cycle of a connection. Each step reports an event that tells which way the link has
gone, so the events of a run alone show when a connection was asked for and established, what
became of its events, and that it ended. -/

namespace BlePeripheral

namespace LinkEvent

def keepsAdvertising : LinkEvent → Bool
  | advertised _ | scanResponseSent .. | connectionRejected .. | frameDiscarded _
  | ignored _ => true
  | _ => false

def isTraffic : LinkEvent → Bool
  | dataReceived .. | eventMissed .. => true
  | _ => false

def keepsConnection : LinkEvent → Bool
  | frameDiscarded _ => true
  | event => event.isTraffic

def endsConnection : LinkEvent → Bool
  | connectionLost _ | terminated _ => true
  | _ => false

def isRequest : LinkEvent → Bool
  | connectRequested .. => true
  | _ => false

theorem keepsAdvertising_of_isRefusal {event : LinkEvent} (h : event.isRefusal = true) :
    event.keepsAdvertising = true := by
  cases event <;> first | rfl | cases h

theorem keepsAdvertising_of_isTraffic {event : LinkEvent} (h : event.isTraffic = true) :
    event.keepsAdvertising = false := by
  cases event <;> first | rfl | cases h

theorem keepsConnection_of_endsConnection {event : LinkEvent}
    (h : event.endsConnection = true) : event.keepsConnection = false := by
  cases event <;> first | rfl | cases h

theorem endsConnection_of_keepsConnection {event : LinkEvent}
    (h : event.keepsConnection = true) : event.endsConnection = false := by
  cases event <;> first | rfl | cases h

end LinkEvent

/-- Whether a link that reports the event goes from the one phase to the other. -/
def LinkPhase.leads : LinkPhase → LinkPhase → LinkEvent → Bool
  | advertising, advertising, event => event.keepsAdvertising
  | advertising, connectRequest, .connectRequested .. => true
  | connectRequest, connected, .connected .. => true
  | connected, connected, event => event.keepsConnection
  | connected, advertising, event => event.endsConnection
  | _, _, _ => false

/-- How the events of a run follow one another. -/
structure LifeCycle (events : List LinkEvent) : Prop where
  /-- What has been asked for is established next. -/
  established : ∀ before initiator accessAddress channel next after,
    events = before ++ .connectRequested initiator accessAddress channel :: next :: after →
    next = .connected accessAddress channel
  /-- Connection events are those of a connection that has not ended. -/
  within : ∀ before event after, events = before ++ event :: after → event.isTraffic = true →
    ∃ earlier accessAddress channel since,
      before = earlier ++ .connected accessAddress channel :: since ∧
      ∀ e ∈ since, e.endsConnection = false
  /-- Nothing but connection events happens until the connection ends. -/
  undisturbed : ∀ before accessAddress channel since event after,
    events = before ++ .connected accessAddress channel :: (since ++ event :: after) →
    (∀ e ∈ since, e.endsConnection = false) →
    event.keepsConnection = true ∨ event.endsConnection = true
  /-- A connection ends before the next is asked for. -/
  ended : ∀ before initiator accessAddress channel between initiator' accessAddress' channel' after,
    events = before ++ .connectRequested initiator accessAddress channel ::
      (between ++ .connectRequested initiator' accessAddress' channel' :: after) →
    ∃ e ∈ between, e.endsConnection = true

namespace LinkState

inductive Next : LinkState → LinkEvent → LinkState → Prop
  | advertising {event : LinkEvent} (keeps : event.keepsAdvertising = true) :
      Next .advertising event .advertising
  | requested (initiator : DeviceAddress) (c : Connection) :
      Next .advertising (.connectRequested initiator c.context.accessAddress c.channel)
        (.connectRequest c)
  | established (c c' : Connection) :
      Next (.connectRequest c) (.connected c.context.accessAddress c.channel) (.connected c')
  | connected {event : LinkEvent} (c c' : Connection) (keeps : event.keepsConnection = true) :
      Next (.connected c) event (.connected c')
  | ended {event : LinkEvent} (c : Connection) (ends : event.endsConnection = true) :
      Next (.connected c) event .advertising

inductive Path : LinkState → List LinkEvent → LinkState → Prop
  | nil (state : LinkState) : Path state [] state
  | cons {state next last : LinkState} {event : LinkEvent} {events : List LinkEvent}
      (first : Next state event next) (rest : Path next events last) :
      Path state (event :: events) last

theorem Next.phase_eq_iff {state next : LinkState} {event : LinkEvent} (h : Next state event next)
    (phase : LinkPhase) : next.phase = phase ↔ state.phase.leads phase event = true := by
  cases h with
  | advertising keeps =>
    cases phase <;> cases event <;>
      simp_all [LinkState.phase, LinkPhase.leads, LinkEvent.keepsAdvertising]
  | requested initiator c =>
    cases phase <;> simp [LinkState.phase, LinkPhase.leads, LinkEvent.keepsAdvertising]
  | established c c' => cases phase <;> simp [LinkState.phase, LinkPhase.leads]
  | connected c c' keeps =>
    have goesOn := LinkEvent.endsConnection_of_keepsConnection keeps
    cases phase <;> simp [LinkState.phase, LinkPhase.leads, keeps, goesOn]
  | ended c ends =>
    have stops := LinkEvent.keepsConnection_of_endsConnection ends
    cases phase <;> simp [LinkState.phase, LinkPhase.leads, ends, stops]

theorem Next.of_connectRequested {state next : LinkState} {initiator : DeviceAddress}
    {accessAddress : UInt32} {channel : UInt8}
    (h : Next state (.connectRequested initiator accessAddress channel) next) :
    state = .advertising ∧ ∃ c, next = .connectRequest c ∧
      accessAddress = c.context.accessAddress ∧ channel = c.channel := by
  cases h with
  | requested initiator c => exact ⟨rfl, c, rfl, rfl, rfl⟩
  | advertising keeps => cases keeps
  | connected c c' keeps => cases keeps
  | ended c ends => cases ends

theorem Next.of_isRequest {state next : LinkState} {event : LinkEvent} (h : Next state event next)
    (request : event.isRequest = true) : state = .advertising ∧ next ≠ .advertising := by
  cases event with
  | connectRequested =>
    obtain ⟨advertising, c, asked, -⟩ := h.of_connectRequested
    exact ⟨advertising, by rw [asked]; exact nofun⟩
  | _ => cases request

theorem Next.ne_advertising {state next : LinkState} {event : LinkEvent} (h : Next state event next)
    (stops : event.keepsAdvertising = false) (noRequest : event.isRequest = false) :
    state ≠ .advertising := by
  cases h with
  | advertising keeps => rw [stops] at keeps; cases keeps
  | requested => cases noRequest
  | established => exact nofun
  | connected => exact nofun
  | ended => exact nofun

theorem Next.of_connected {state next : LinkState} {accessAddress : UInt32} {channel : UInt8}
    (h : Next state (.connected accessAddress channel) next) : next.isConnected = true := by
  cases h with
  | established => rfl
  | advertising keeps => cases keeps
  | connected c c' keeps => cases keeps
  | ended c ends => cases ends

theorem Next.of_isTraffic {state next : LinkState} {event : LinkEvent} (h : Next state event next)
    (traffic : event.isTraffic = true) : state.isConnected = true := by
  cases h with
  | connected => rfl
  | ended => rfl
  | established => cases traffic
  | requested => cases traffic
  | advertising keeps => simp [LinkEvent.keepsAdvertising_of_isTraffic traffic] at keeps

theorem Path.exists_between {state last : LinkState} {before after : List LinkEvent}
    (h : Path state (before ++ after) last) :
    ∃ middle, Path state before middle ∧ Path middle after last := by
  induction before generalizing state with
  | nil => exact ⟨state, .nil state, h⟩
  | cons event before ih =>
    cases h with
    | cons first rest =>
      obtain ⟨middle, path, path'⟩ := ih rest
      exact ⟨middle, .cons first path, path'⟩

theorem Path.exists_end {state last : LinkState} {events : List LinkEvent}
    (h : Path state events last) (busy : state ≠ .advertising) (back : last = .advertising) :
    ∃ e ∈ events, e.endsConnection = true := by
  induction h with
  | nil => exact absurd back busy
  | cons first _ ih =>
    cases first with
    | advertising => exact absurd rfl busy
    | requested => exact absurd rfl busy
    | established =>
      obtain ⟨e, member, ends⟩ := ih nofun back
      exact ⟨e, List.mem_cons_of_mem _ member, ends⟩
    | connected =>
      obtain ⟨e, member, ends⟩ := ih nofun back
      exact ⟨e, List.mem_cons_of_mem _ member, ends⟩
    | ended c ends => exact ⟨_, List.mem_cons_self, ends⟩

theorem Path.isConnected {state last : LinkState} {events : List LinkEvent}
    (h : Path state events last) (goesOn : ∀ e ∈ events, e.endsConnection = false)
    (connected : state.isConnected = true) : last.isConnected = true := by
  induction h with
  | nil => exact connected
  | cons first _ ih =>
    obtain ⟨now, later⟩ := List.forall_mem_cons.mp goesOn
    apply ih later
    cases first with
    | advertising => cases connected
    | requested => cases connected
    | established => cases connected
    | connected => rfl
    | ended c ends => simp [now] at ends

theorem Path.since_connected {state last : LinkState} {events : List LinkEvent}
    (h : Path state events last) (connected : last.isConnected = true) :
    (state.isConnected = true ∧ ∀ e ∈ events, e.endsConnection = false) ∨
      ∃ earlier accessAddress channel since,
        events = earlier ++ .connected accessAddress channel :: since ∧
        ∀ e ∈ since, e.endsConnection = false := by
  induction h with
  | nil => exact .inl ⟨connected, by simp⟩
  | @cons state next last event events first _ ih =>
    obtain ⟨already, goesOn⟩ | ⟨earlier, accessAddress, channel, since, rfl, goesOn⟩ := ih connected
    · cases first with
      | established c c' => exact .inr ⟨[], _, _, events, rfl, goesOn⟩
      | connected c c' keeps =>
        have now := LinkEvent.endsConnection_of_keepsConnection keeps
        exact .inl ⟨rfl, List.forall_mem_cons.mpr ⟨now, goesOn⟩⟩
      | advertising => cases already
      | requested => cases already
      | ended => cases already
    · exact .inr ⟨event :: earlier, accessAddress, channel, since, rfl, goesOn⟩

theorem Path.lifeCycle {last : LinkState} {events : List LinkEvent}
    (h : Path .advertising events last) : LifeCycle events := by
  constructor
  case established =>
    rintro before initiator accessAddress channel next after rfl
    obtain ⟨middle, -, path⟩ := h.exists_between
    cases path with
    | cons first path =>
      obtain ⟨-, c, rfl, rfl, rfl⟩ := first.of_connectRequested
      cases path with
      | cons second _ =>
        cases second
        rfl
  case within =>
    rintro before event after rfl traffic
    obtain ⟨middle, path, rest⟩ := h.exists_between
    cases rest with
    | cons first _ =>
      obtain ⟨already, -⟩ | split := path.since_connected (first.of_isTraffic traffic)
      · cases already
      · exact split
  case undisturbed =>
    rintro before accessAddress channel since event after rfl goesOn
    obtain ⟨middle, -, path⟩ := h.exists_between
    cases path with
    | cons first path =>
      obtain ⟨middle', path', rest⟩ := path.exists_between
      have still := path'.isConnected goesOn first.of_connected
      obtain ⟨c, rfl⟩ := LinkState.exists_of_isConnected still
      cases rest with
      | cons second _ =>
        cases second with
        | connected c c' keeps => exact .inl keeps
        | ended c ends => exact .inr ends
  case ended =>
    rintro before initiator accessAddress channel between initiator' accessAddress' channel' after
      rfl
    obtain ⟨middle, -, path⟩ := h.exists_between
    cases path with
    | cons first path =>
      obtain ⟨-, c, rfl, -, -⟩ := first.of_connectRequested
      obtain ⟨middle', path', rest⟩ := path.exists_between
      cases rest with
      | cons second _ =>
        exact path'.exists_end nofun second.of_connectRequested.1

/-- A connection that waits for its first frame is as its request has made it. -/
def Fresh (state : LinkState) : Prop :=
  ∀ c, state = .connectRequest c → ∃ context rate, c = Connection.ofContext context rate

end LinkState

theorem Connection.keepsConnection_report (c : Connection) (heard : Option RxFrame) :
    (c.report heard).keepsConnection = true := by
  unfold report
  split
  · rfl
  · split <;> rfl

namespace Link

variable {P : Type} [Peer P]

theorem Advertises.next {link link' : Link} {radio radio' : Radio P} {heard : Option RxFrame}
    {event : LinkEvent} (h : link.Advertises radio heard event link' radio')
    (advertising : link.state = .advertising) : link.state.Next event link'.state := by
  have keeps {event : LinkEvent} (keeps : event.keepsAdvertising = true) :
      link.state.Next event (link.advertisedAt radio.clock.now).state := by
    rw [advertisedAt, advertising]
    exact .advertising keeps
  cases h with
  | broadcast => exact keeps rfl
  | silence => exact keeps rfl
  | answered listens window answers =>
    cases answers with
    | @connection context asked =>
      rw [advertising]
      exact .requested context.initiator (.ofContext context link.config.tickRate)
    | scanResponse => exact keeps rfl
    | nothing event noRequest noScan refused =>
      exact keeps (LinkEvent.keepsAdvertising_of_isRefusal refused)

theorem Reacts.next {link link' : Link} {c c' : Connection} {radio radio' : Radio P}
    {heard : Option RxFrame} {event : LinkEvent} {new : List ControlPdu}
    (h : link.Reacts c' radio heard event link' radio' new) :
    (LinkState.connected c).Next event link'.state := by
  cases h with
  | stands => exact .connected _ _ (c'.keepsConnection_report _)
  | lost => exact .ended _ rfl
  | accepted => exact .connected _ _ (c'.keepsConnection_report _)
  | terminated => exact .ended _ rfl

theorem Step.fresh {link link' : Link} {w w' : World P} {event : LinkEvent}
    (h : link.Step w event link' w') : link'.state.Fresh := by
  intro c waiting
  obtain ⟨context, rfl⟩ := h.connectRequest waiting
  exact ⟨context, _, rfl⟩

theorem Step.next {link link' : Link} {w w' : World P} {event : LinkEvent}
    (h : link.Step w event link' w') : link.state.Next event link'.state := by
  cases state : link.state with
  | advertising =>
    obtain ⟨n, heard, advertises⟩ := h.of_advertising state
    rw [← state]
    exact advertises.next state
  | connectRequest c =>
    obtain ⟨_, _, _, _, -, -, -, -, connected⟩ := h.of_connectRequest state
    rw [connected, h.event_of_connectRequest state]
    exact .established _ _
  | connected c =>
    obtain ⟨_, _, _, _, _, -, reacts, -⟩ := h.of_connected state
    exact reacts.next

theorem Course.path {link link' : Link} {w w' : World P} {stages : List Stage}
    (course : Course link w stages link' w') :
    link.state.Path (stages.map Stage.event) link'.state ∧
      ∀ stage ∈ stages, stage.before.state.Next stage.event stage.after.state := by
  induction course with
  | done pause =>
    rw [pause.link_eq]
    exact ⟨.nil _, by simp⟩
  | @step link link₁ link₂ link' w w₁ w₂ w' event stages pause step rest ih =>
    have state : link₁.state = link.state := by rw [pause.link_eq]
    refine ⟨?_, List.forall_mem_cons.mpr ⟨step.next, ih.2⟩⟩
    rw [← state]
    exact .cons step.next ih.1

theorem Course.since_established {link link' : Link} {w w' : World P} {stages : List Stage}
    (course : Course link w stages link' w') (fresh : link.state.Fresh)
    (connected : link'.state.isConnected = true) :
    (link.state.isConnected = true ∧ ∀ stage ∈ stages, stage.before.state.isConnected = true) ∨
      ∃ before setUp events link₁ w₁ context rate first anchor,
        stages = before ++ setUp :: events ∧ setUp.before.state.phase = .connectRequest ∧
        Course link w (before ++ [setUp]) link₁ w₁ ∧
        link₁.state = .connected ((Connection.ofContext context rate).established first anchor) ∧
        Course link₁ w₁ events link' w' ∧
        ∀ stage ∈ events, stage.before.state.isConnected = true := by
  induction course with
  | done pause =>
    rw [pause.link_eq] at connected
    exact .inl ⟨connected, by simp⟩
  | @step link link₁ link₂ link' w w₁ w₂ w' event stages pause step rest ih =>
    have state : link₁.state = link.state := by rw [pause.link_eq]
    obtain ⟨already, since⟩ | later := ih step.fresh connected
    · cases phase : link₁.state with
      | advertising =>
        have next := step.next
        rw [phase] at next
        obtain ⟨c, there⟩ := LinkState.exists_of_isConnected already
        rw [there] at next
        cases next
      | connectRequest c =>
        obtain ⟨context, rate, rfl⟩ := fresh c (by rw [← state, phase])
        obtain ⟨first, _, _, _, -, -, -, -, established⟩ := step.of_connectRequest phase
        exact .inr ⟨[], _, stages, link₂, w₂, context, rate, first, _, rfl, by rw [phase]; rfl,
          .step pause step (.done (.refl link₂ w₂)), established, rest, since⟩
      | connected c =>
        have now : link₁.state.isConnected = true := by rw [phase]; rfl
        rw [state] at now
        refine .inl ⟨now, List.forall_mem_cons.mpr ⟨?_, since⟩⟩
        rw [phase]
        rfl
    · obtain ⟨before, setUp, events, link₃, w₃, context, rate, first, anchor, rfl, asked, course,
        established, rest', since⟩ := later
      exact .inr ⟨⟨link₁, event, link₂⟩ :: before, setUp, events, link₃, w₃, context, rate, first,
        anchor, rfl, asked, .step pause step course, established, rest', since⟩

/-- The events of a run form the life cycle of connections. The phase after a step is told by the
phase before it and the event; a request is followed by its establishment, and what is reported
from there until the connection ends is of that connection alone. -/
theorem events_form_life_cycle {config : LinkConfig} {controls : ControlTable} {radio : Radio P}
    {link link' : Link} {w w' : World P} {stages : List Stage}
    (started : start config controls radio = .ok (link, w))
    (course : Course link w stages link' w') :
    (∀ stage ∈ stages, ∀ phase, stage.after.state.phase = phase ↔
      stage.before.state.phase.leads phase stage.event = true) ∧
      LifeCycle (stages.map Stage.event) := by
  obtain ⟨prepared, -, rfl, rfl⟩ := start_eq_ok.mp started
  obtain ⟨path, each⟩ := course.path
  exact ⟨fun stage member => (each stage member).phase_eq_iff, path.lifeCycle⟩

/-- A connection is opened, hears a malformed frame, misses a window and is terminated. -/
theorem events_form_life_cycle_of_termination :
    ∃ (controls : ControlTable) (radio : Radio ScriptedPeer) (link link' : Link)
      (w w' : World ScriptedPeer) (stages : List Stage),
      start {} controls radio = .ok (link, w) ∧ Course link w stages link' w' ∧
      stages.map Stage.event =
        [.connectRequested (.ofAir [0xb0, 0xec, 0xa7, 0x55, 0xd4, 0x6b]) 0x50654b3a 7,
          .connected 0x50654b3a 7,
          .frameDiscarded (.malformedFrame (.missingHeader 1)),
          .eventMissed (.windowMiss 2) 1, .terminated (some 0x13)] ∧
      (∀ stage ∈ stages, ∀ phase, stage.after.state.phase = phase ↔
        stage.before.state.phase.leads phase stage.event = true) ∧
        LifeCycle (stages.map Stage.event) := by
  have passes : testStart (({} : ControlTable).register .terminateInd .terminateOnRequest)
      [some ⟨100, [0x01, 0]⟩, some ⟨100, [0x01]⟩, none, some ⟨100, [0x0b, 2, 0x02, 0x13]⟩] 0
      (testEvents 500 (fun _ _ => true)
        [.connectRequested (.ofAir [0xb0, 0xec, 0xa7, 0x55, 0xd4, 0x6b]) 0x50654b3a 7,
          .connected 0x50654b3a 7,
          .frameDiscarded (.malformedFrame (.missingHeader 1)),
          .eventMissed (.windowMiss 2) 1, .terminated (some 0x13)]) = true := by
    decide +kernel
  obtain ⟨link, w, started, passes⟩ := start_of_test passes
  obtain ⟨stages, link', w', run, events, -⟩ := Run.of_testEvents passes
  exact ⟨_, _, link, link', w, w', stages, started, run.course, events,
    events_form_life_cycle started run.course⟩

end Link

end BlePeripheral

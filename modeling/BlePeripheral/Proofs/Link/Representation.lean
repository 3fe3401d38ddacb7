import BlePeripheral.Proofs.Connection.Window
import BlePeripheral.Proofs.Link.Discipline
import BlePeripheral.Proofs.Link.LifeCycle
import BlePeripheral.Proofs.Pdu.Requests

/-! What a connection holds from the request that opens it to its end. The request fixes the
channels, the window and the timeout; a connection event moves the selector over these channels
and touches none of the rest. -/

namespace BlePeripheral

theorem ConnectRequest.isUsed_channelMap {r : ConnectRequest} {n : Nat}
    (h : r.mapField = BitVec.ofNat 40 n) (channel : UInt8) :
    channel.toNat < 37 ∧ r.channelMap.isUsed channel = true ↔
      channel.toNat < 37 ∧ n.testBit channel.toNat = true := by
  refine and_congr_right ?_
  intro low
  have low' : channel.toNat < 40 := by omega
  rw [channelMap, h, ChannelMap.isUsed, BitVec.getLsbD_setWidth, BitVec.getLsbD_ofNat]
  simp [low, low']

namespace Connection

/-- The connection is one that a frame has asked for: its channels are those of the map in the
frame, its times those of the request at a tick rate, and its selector is on these channels. -/
structure Represents (c : Connection) (bytes : Bytes) (request : ConnectRequest) (rate : TickRate) :
    Prop where
  read : ∃ header, AdvPdu.ofBytes bytes = .ok (.connectRequest header request)
  context : ConnectionContext.ofRequest request = .ok c.context
  ascending : c.context.used.toList.Pairwise (· < ·)
  channels : ∀ channel, channel ∈ c.context.used.toList ↔
    channel.toNat < 37 ∧ (Bytes.natAt bytes 30 5).testBit channel.toNat = true
  several : 2 ≤ c.context.used.toList.length
  hops : c.Hops
  /-- Every remainder that a channel may be remapped by is a place in the selector's list. -/
  inRange : ∀ unmapped : UInt8,
    unmapped.toNat % c.selector.used.toList.length < c.selector.used.toList.length
  hop : c.selector.hop = c.context.hopIncrement
  unmapped : c.selector.lastUnmapped.toNat < 37
  timed : c.IsTimed
  interval : c.intervalTicks = rate.ticksFor1250Us request.interval.toUInt32
  closing : c.window.closing = min
    (rate.ticksFor1250Us (request.winOffset.toUInt32 + request.winSize.toUInt32)) c.intervalTicks
  opening : c.window.opening = min (rate.ticksFor1250Us request.winOffset.toUInt32) c.window.closing
  timeout : c.supervisionTicks = rate.ticksFor10Ms request.timeout.toUInt32

theorem represents_ofContext {bytes : Bytes} {header : AdvHeader} {request : ConnectRequest}
    {context : ConnectionContext} (rate : TickRate)
    (read : AdvPdu.ofBytes bytes = .ok (.connectRequest header request))
    (made : ConnectionContext.ofRequest request = .ok context) :
    (ofContext context rate).Represents bytes request rate := by
  obtain ⟨used, same⟩ := ConnectionContext.ofRequest_eq_ok made
  have offset : context.windowOffsetTicks rate =
      rate.ticksFor1250Us request.winOffset.toUInt32 := by rw [same]; rfl
  have last : context.windowEndTicks rate =
      rate.ticksFor1250Us (request.winOffset.toUInt32 + request.winSize.toUInt32) := by
    rw [same]
    rfl
  have ends : context.windowOffsetTicks rate ≤ context.windowEndTicks rate := by
    apply rate.ticksFor1250Us_mono
    have := context.winOffset.toNat_lt
    have := context.winSize.toNat_lt
    simp only [UInt32.le_iff_toNat_le, UInt32.toNat_add, UInt16.toNat_toUInt32,
      UInt8.toNat_toUInt32]
    omega
  constructor
  case read => exact ⟨header, read⟩
  case context => exact made
  case ascending => exact context.used.pairwise_toList
  case channels =>
    intro channel
    rw [← ConnectRequest.isUsed_channelMap (AdvPdu.mapField_eq read),
      ← UsedChannels.map_eq_of_ofMap used]
    exact UsedChannels.mem_toList
  case several => exact context.used.two_le_length
  case hops => exact hops_ofContext context rate
  case inRange => exact fun unmapped => Nat.mod_lt _ context.used.size_pos
  case hop => rfl
  case unmapped => exact unmappedHop_lt _ _
  case timed => exact isTimed_ofContext context rate
  case interval => rw [same]; rfl
  case closing => rw [← last]; exact EventWindow.closing_within ends
  case opening => rw [← offset]; rfl
  case timeout => rw [same]; rfl

theorem Represents.established {c : Connection} {bytes : Bytes} {request : ConnectRequest}
    {rate : TickRate} (h : c.Represents bytes request rate) (frame : RxFrame) (anchor : Tick) :
    (c.established frame anchor).Represents bytes request rate :=
  { h with hops := ⟨h.hops.used, h.hops.current⟩, timed := ⟨h.timed.opens, h.timed.closes⟩ }

theorem Represents.after {c : Connection} {bytes : Bytes} {request : ConnectRequest}
    {rate : TickRate} (h : c.Represents bytes request rate) (heard : Option RxFrame) :
    (c.nextEvent.after heard).Represents bytes request rate := by
  have hops := h.hops.after heard
  have timed := h.timed.after heard
  obtain ⟨_, _, _, after⟩ := c.nextEvent.after_eq heard
  rw [after] at hops timed ⊢
  exact { h with hops, timed, unmapped := unmappedHop_lt _ _ }

end Connection

namespace LinkState

theorem exists_connection {state : LinkState} (busy : state ≠ .advertising) :
    ∃ c, state.connection? = some c := by
  cases state with
  | advertising => exact absurd rfl busy
  | connectRequest c => exact ⟨c, rfl⟩
  | connected c => exact ⟨c, rfl⟩

theorem Next.of_advertising {event : LinkEvent} {next : LinkState} (h : Next .advertising event next)
    (busy : next ≠ .advertising) : ∃ c, next = .connectRequest c := by
  cases h with
  | advertising => exact absurd rfl busy
  | requested initiator c => exact ⟨c, rfl⟩

end LinkState

namespace Link

variable {P : Type} [Peer P]

theorem Step.represents {link link' : Link} {w w' : World P} {event : LinkEvent}
    {c c' : Connection} {bytes : Bytes} {request : ConnectRequest} {rate : TickRate}
    (h : link.Step w event link' w') (held : link.state.connection? = some c)
    (held' : link'.state.connection? = some c') (represents : c.Represents bytes request rate) :
    c'.Represents bytes request rate := by
  cases state : link.state with
  | advertising =>
    rw [state] at held
    cases held
  | connectRequest first =>
    rw [state] at held
    cases held
    obtain ⟨frame, _, _, _, -, -, -, -, established⟩ := h.of_connectRequest state
    rw [established] at held'
    cases held'
    exact represents.established _ _
  | connected current =>
    rw [state] at held
    cases held
    obtain ⟨heard, _, _, _, _, -, reacts, -⟩ := h.of_connected state
    obtain rfl | rfl := reacts.link_eq
    · cases held'
      exact represents.after heard
    · cases held'

theorem Course.represents {link link' : Link} {w w' : World P} {stages : List Stage}
    {c c' : Connection} {bytes : Bytes} {request : ConnectRequest} {rate : TickRate}
    (course : Course link w stages link' w') (held : link.state.connection? = some c)
    (busy : ∀ stage ∈ stages, stage.after.state ≠ .advertising)
    (held' : link'.state.connection? = some c') (represents : c.Represents bytes request rate) :
    c'.Represents bytes request rate ∧ ∀ stage ∈ stages,
      ∃ c, stage.after.state.connection? = some c ∧ c.Represents bytes request rate := by
  induction course generalizing c with
  | done pause =>
    rw [pause.link_eq, held] at held'
    cases held'
    exact ⟨represents, by simp⟩
  | @step link link₁ link₂ link' w w₁ w₂ w' event stages pause step rest ih =>
    have held₁ : link₁.state.connection? = some c := by rw [pause.link_eq, held]
    obtain ⟨still, later⟩ := List.forall_mem_cons.mp busy
    obtain ⟨c₂, held₂⟩ := LinkState.exists_connection still
    have represents₂ := step.represents held₁ held₂ represents
    obtain ⟨last, since⟩ := ih held₂ later held' represents₂
    exact ⟨last, List.forall_mem_cons.mpr ⟨⟨c₂, held₂, represents₂⟩, since⟩⟩

theorem Course.since_requested {link link' : Link} {w w' : World P} {stages : List Stage}
    (course : Course link w stages link' w') (busy : link'.state ≠ .advertising) :
    (link.state ≠ .advertising ∧ ∀ stage ∈ stages, stage.after.state ≠ .advertising) ∨
      ∃ before link₁ link₂ w₁ w₂ event since c,
        stages = before ++ ⟨link₁, event, link₂⟩ :: since ∧ Course link w before link₁ w₁ ∧
        link₁.state = .advertising ∧ link₁.Step w₁ event link₂ w₂ ∧
        link₂.state = .connectRequest c ∧ Course link₂ w₂ since link' w' ∧
        ∀ stage ∈ since, stage.after.state ≠ .advertising := by
  induction course with
  | done pause =>
    rw [pause.link_eq] at busy
    exact .inl ⟨busy, by simp⟩
  | @step link link₁ link₂ link' w w₁ w₂ w' event stages pause step rest ih =>
    have state : link₁.state = link.state := by rw [pause.link_eq]
    obtain ⟨already, since⟩ | later := ih busy
    · by_cases advertising : link₁.state = .advertising
      · have next := step.next
        rw [advertising] at next
        obtain ⟨c, asked⟩ := next.of_advertising already
        exact .inr ⟨[], link₁, link₂, w₁, w₂, event, stages, c, rfl, .done pause, advertising, step,
          asked, rest, since⟩
      · rw [state] at advertising
        exact .inl ⟨advertising, List.forall_mem_cons.mpr ⟨already, since⟩⟩
    · obtain ⟨before, link₃, link₄, w₃, w₄, event', since, c, same, course, later⟩ := later
      exact .inr ⟨⟨link₁, event, link₂⟩ :: before, link₃, link₄, w₃, w₄, event', since, c,
        by rw [same]; rfl, .step pause step course, later⟩

/-- Whenever a link has a connection, a frame that came in while it was advertising has asked for
it, and what it holds stands for that request. So did what it has held since. -/
theorem connection_represents_request {config : LinkConfig} {controls : ControlTable}
    {radio : Radio P} {link link' : Link} {w w' : World P} {stages : List Stage} {c : Connection}
    (started : start config controls radio = .ok (link, w))
    (course : Course link w stages link' w') (held : link'.state.connection? = some c) :
    ∃ before link₁ link₂ w₁ w₂ event since frame request,
      stages = before ++ ⟨link₁, event, link₂⟩ :: since ∧ Course link w before link₁ w₁ ∧
      link₁.state = .advertising ∧ link₁.Step w₁ event link₂ w₂ ∧
      w₂.radio.frames = w₁.radio.frames ++ [frame] ∧ Course link₂ w₂ since link' w' ∧
      c.Represents frame.bytes request config.tickRate ∧
      ∀ stage ∈ ⟨link₁, event, link₂⟩ :: since, ∃ c,
        stage.after.state.connection? = some c ∧
          c.Represents frame.bytes request config.tickRate := by
  obtain ⟨prepared, -, rfl, rfl⟩ := start_eq_ok.mp started
  have busy : link'.state ≠ .advertising := by
    intro idle
    rw [idle] at held
    cases held
  obtain ⟨already, -⟩ | ⟨before, link₁, link₂, w₁, w₂, event, since, c₂, same, course₁, advertising,
    step, asked, course₂, later⟩ := course.since_requested busy
  · exact absurd rfl already
  · obtain ⟨frame, context, came, requested, rfl⟩ := step.requested advertising asked
    obtain ⟨header, request, read, -, -, made⟩ := requested?_eq_some.mp requested
    have rate : link₁.config.tickRate = config.tickRate := by rw [course₁.config_eq]
    have held₂ : link₂.state.connection? =
        some (Connection.ofContext context link₁.config.tickRate) := by rw [asked]; rfl
    have first := Connection.represents_ofContext link₁.config.tickRate read made
    obtain ⟨last, each⟩ := course₂.represents held₂ later held first
    rw [rate] at first last each held₂
    exact ⟨before, link₁, link₂, w₁, w₂, event, since, frame, request, same, course₁, advertising,
      step, came, course₂, last, List.forall_mem_cons.mpr ⟨⟨_, held₂, first⟩, each⟩⟩

/-- Four channels are marked beside the reserved bits, and the window reaches past the interval.
The connection hears a PDU and then misses a window. -/
theorem connection_represents_request_of_few_channels :
    ∃ (radio : Radio ScriptedPeer) (link link' : Link) (w w' : World ScriptedPeer)
      (stages : List Stage) (c : Connection),
      start {} {} radio = .ok (link, w) ∧ Course link w stages link' w' ∧
      link'.state.connection? = some c ∧ c.context.used.toList = [9, 10, 21, 36] ∧
      c.channel = 21 ∧ c.window.closing = c.intervalTicks ∧ stages.length = 4 ∧
      ∃ before link₁ link₂ w₁ w₂ event since frame request,
        stages = before ++ ⟨link₁, event, link₂⟩ :: since ∧ Course link w before link₁ w₁ ∧
        link₁.state = .advertising ∧ link₁.Step w₁ event link₂ w₂ ∧
        w₂.radio.frames = w₁.radio.frames ++ [frame] ∧ Course link₂ w₂ since link' w' ∧
        c.Represents frame.bytes request ({} : LinkConfig).tickRate ∧
        ∀ stage ∈ ⟨link₁, event, link₂⟩ :: since, ∃ c,
          stage.after.state.connection? = some c ∧
            c.Represents frame.bytes request ({} : LinkConfig).tickRate := by
  have passes : testFrom (P := ScriptedPeer) {} {} ⟨0, 100⟩
      { advertising := [some ⟨100, [0x05, 0x22, 0xb0, 0xec, 0xa7, 0x55, 0xd4, 0x6b, 0x66, 0x55,
          0x44, 0x33, 0x22, 0x11, 0x3a, 0x4b, 0x65, 0x50, 0x56, 0x34, 0x12, 0x0a, 0x04, 0x00, 0x06,
          0x00, 0x00, 0x00, 0x04, 0x00, 0x00, 0x06, 0x20, 0x00, 0xf0, 0x07]⟩]
        data := [some ⟨100, [0x01, 0]⟩, some ⟨100, [0x09, 0]⟩] }
      (testEvents 500
        (fun link' _ => link'.state.connection?.any fun c =>
          c.context.used.toList = [9, 10, 21, 36] && c.channel = 21 &&
            c.window.closing = c.intervalTicks)
        [.connectRequested (.ofAir [0xb0, 0xec, 0xa7, 0x55, 0xd4, 0x6b]) 0x50654b3a 36,
          .connected 0x50654b3a 36, .dataReceived 21 .dataContinue 0 false,
          .eventMissed (.windowMiss 2) 1]) = true := by
    decide +kernel
  obtain ⟨link, w, started, passes⟩ := start_of_testFrom passes
  obtain ⟨stages, link', w', run, events, passes⟩ := Run.of_testEvents passes
  obtain ⟨c, held, passes⟩ := (Option.any_eq_true _ _).mp passes
  simp only [Bool.and_eq_true, decide_eq_true_eq] at passes
  have length : stages.length = 4 := by simpa using congrArg List.length events
  exact ⟨_, link, link', w, w', stages, c, started, run.course, held, passes.1.1, passes.1.2,
    passes.2, length, connection_represents_request started run.course held⟩

end Link

end BlePeripheral

import Mathlib.Data.List.Forall2
import BlePeripheral.Proofs.Air.Usage
import BlePeripheral.Proofs.Channel.Hops
import BlePeripheral.Proofs.Link.Journal

/-! How a link uses its radio over a run. Whatever a step does, and whichever way it ends, it
leaves the radio at rest and tuned to what the state of the link asks for. -/

namespace BlePeripheral

def LinkState.regime : LinkState → Regime
  | advertising | connectRequest _ => .advertising
  | connected c => .connection c.context

structure Connection.Hops (c : Connection) : Prop where
  used : c.selector.used = c.context.used
  current : c.channel ∈ c.context.used.toList

namespace Connection

theorem hops_ofContext (context : ConnectionContext) (rate : TickRate) :
    (ofContext context rate).Hops :=
  ⟨rfl, context.used.remap_mem_toList _⟩

theorem Hops.after {c : Connection} (h : c.Hops) (heard : Option RxFrame) :
    (c.nextEvent.after heard).Hops := by
  constructor
  · obtain ⟨_, _, _, after⟩ := c.nextEvent.after_eq heard
    rw [after]
    exact h.used
  · rw [after_context, after_channel]
    show c.selector.used.remap _ ∈ c.context.used.toList
    rw [h.used]
    exact c.context.used.remap_mem_toList _

end Connection

namespace Link

/-- The link between two steps, and its radio. -/
structure AtRest {P : Type} (link : Link) (radio : Radio P) : Prop where
  rests : radio.RestsAt link.state.regime.accessAddress
  hops : ∀ c, link.state.connection? = some c → c.Hops

theorem advChannel_mem (index : Fin 3) : advChannel index ∈ Regime.advertising.channels := by
  revert index
  decide

theorem AdvertisingLog.usage {link : Link} {heard : Option RxFrame} {log : List RadioEvent}
    (h : link.AdvertisingLog heard log) (phy : Phy) :
    Usage.After phy ⟨.advertising, false⟩ log ⟨.advertising, false⟩ := by
  have allowed := advChannel_mem link.advIndex
  cases h with
  | broadcast sent => exact .cons (.transmitted _ sent allowed) (.nil _)
  | silence sent opened closed =>
    exact .cons (.transmitted _ sent allowed)
      (.cons (.listened opened allowed) (.cons (.idled _ true closed) (.nil _)))
  | passed sent opened =>
    exact .cons (.transmitted _ sent allowed)
      (.cons (.listened opened allowed) (.cons (.delivered _ _) (.nil _)))
  | answered sent opened answered =>
    exact .cons (.transmitted _ sent allowed) (.cons (.listened opened allowed)
      (.cons (.delivered _ _) (.cons (.transmitted _ answered allowed) (.nil _))))

theorem HearingLog.usage {channel : UInt8} {heard : Option RxFrame} {log : List RadioEvent}
    (h : HearingLog channel heard log) (regime : Regime) (allowed : channel ∈ regime.channels)
    (phy : Phy) : Usage.After phy ⟨regime, false⟩ log ⟨regime, false⟩ := by
  cases h with
  | silence opened closed =>
    exact .cons (.listened opened allowed) (.cons (.idled _ true closed) (.nil _))
  | frame opened frame => exact .cons (.listened opened allowed) (.cons (.delivered _ frame) (.nil _))

theorem ReactionLog.usage {link link' : Link} {kept : Connection} {log : List RadioEvent}
    (h : link.ReactionLog kept link' log) (hops : kept.Hops) :
    Usage.After link.config.phy ⟨.connection kept.context, false⟩ log ⟨link'.state.regime, false⟩ := by
  have allowed : kept.channel ∈ (Regime.connection kept.context).channels := hops.current
  have reconfigured : Usage.Next link.config.phy ⟨.connection kept.context, false⟩
      (.configured advAccessAddress advCrcInit link.config.phy) ⟨.advertising, false⟩ :=
    .configured (.connection kept.context) .advertising
  cases h with
  | silent => exact .nil _
  | answered pdu sent => exact .cons (.transmitted pdu sent allowed) (.nil _)
  | lost idled => exact .cons (.idled _ false idled) (.cons reconfigured (.nil _))
  | terminated pdu sent idled =>
    exact .cons (.transmitted pdu sent allowed)
      (.cons (.idled _ false idled) (.cons reconfigured (.nil _)))

variable {P : Type} [Peer P]

theorem Advertises.restsAt {link link' : Link} {radio radio' : Radio P} {heard : Option RxFrame}
    {event : LinkEvent} {accessAddress : UInt32} (h : link.Advertises radio heard event link' radio')
    (rests : radio.RestsAt accessAddress) : radio'.RestsAt accessAddress := by
  have listening : (link.listening radio).accessAddress = accessAddress := rests.tuned
  cases h with
  | broadcast => exact (rests.afterReads 1).transmit _ _
  | silence listens window => exact listening ▸ window.restsAt
  | answered listens window answers =>
    have heard := listening ▸ window.restsAt
    cases answers with
    | connection => exact heard
    | scanResponse scanner n => exact (heard.afterReads (n + 1)).transmit _ _
    | nothing => exact heard

theorem Hears.restsAt {c : Connection} {radio radio' : Radio P} {heard : Option RxFrame} {i j : Nat}
    (h : Hears c radio heard radio' i j) : radio'.RestsAt radio.accessAddress :=
  h.window.restsAt

theorem Reacts.restsAt {link link' : Link} {c : Connection} {radio radio' : Radio P}
    {heard : Option RxFrame} {event : LinkEvent} {new : List ControlPdu}
    (h : link.Reacts c radio heard event link' radio' new)
    (rests : radio.RestsAt c.context.accessAddress) :
    radio'.RestsAt link'.state.regime.accessAddress := by
  have kept : (LinkState.connected (c.after heard)).regime.accessAddress =
      c.context.accessAddress := by
    rw [LinkState.regime, Connection.after_context, Regime.accessAddress]
  cases h with
  | stands => exact kept ▸ rests.afterReads 1
  | lost => exact Radio.restsAt_idle_configure _ _ _ _
  | accepted n => exact kept ▸ (rests.afterReads (n + 1)).transmit _ _
  | terminated => exact Radio.restsAt_idle_configure _ _ _ _

omit [Peer P] in
theorem atRest_withRequested {link : Link} {radio : Radio P} (advertising : link.state = .advertising)
    (rests : radio.RestsAt advAccessAddress) (request : Option ConnectionContext) :
    (link.withRequested request).state.regime = .advertising ∧
      (link.withRequested request).AtRest radio := by
  cases request with
  | none =>
    rw [withRequested, advertising]
    refine ⟨rfl, by rw [advertising]; exact rests, ?_⟩
    intro c made
    rw [advertising] at made
    cases made
  | some context =>
    refine ⟨rfl, rests, ?_⟩
    intro c made
    cases made
    exact Connection.hops_ofContext _ _

/-- A step has used the radio properly, from what the state before asks for to what the state
after does, and has left the link at rest. -/
def Orderly (link : Link) (w : World P) (link' : Link) (w' : World P) : Prop :=
  ∃ log, w'.radio.journal.toList = w.radio.journal.toList ++ log ∧
    Usage.After link.config.phy ⟨link.state.regime, false⟩ log ⟨link'.state.regime, false⟩ ∧
    link'.AtRest w'.radio

theorem Step.orderly_of_advertising {link link' : Link} {w w' : World P} {event : LinkEvent}
    (h : link.Step w event link' w') (rest : link.AtRest w.radio)
    (advertising : link.state = .advertising) : link.Orderly w link' w' := by
  have rests := rest.rests
  rw [advertising] at rests
  obtain ⟨n, heard, advertises⟩ := h.of_advertising advertising
  obtain ⟨log, journal, logged⟩ := advertises.journal_eq
  have still : (link.advertisedAt (w.radio.afterReads n).clock.now).state = .advertising := advertising
  obtain ⟨regime, rest'⟩ := atRest_withRequested still (advertises.restsAt (rests.afterReads n))
    (heard.bind fun frame => link.requested? frame.bytes)
  rw [← advertises.link_eq] at regime rest'
  refine ⟨log, journal, ?_, rest'⟩
  rw [regime, advertising]
  exact logged.usage _

theorem Step.orderly_of_connectRequest {link link' : Link} {w w' : World P} {event : LinkEvent}
    {c : Connection} (h : link.Step w event link' w') (rest : link.AtRest w.radio)
    (waiting : link.state = .connectRequest c) : link.Orderly w link' w' := by
  have hops : c.Hops := rest.hops c (by rw [waiting]; rfl)
  have allowed : c.channel ∈ (Regime.connection c.context).channels := hops.current
  obtain ⟨frame, radio, n, m, heard, answered, -, -, -⟩ := h.of_connectRequest waiting
  obtain ⟨_, anchor, pdu, opened, sent, journal, state⟩ := h.log_of_connectRequest waiting
  have rests : w'.radio.RestsAt c.context.accessAddress := by
    rw [answered, heard]
    exact (((Radio.restsAt_deliver _ _).afterReads _).transmit _ _).afterReads _
  refine ⟨_, journal, ?_, by rw [state]; exact rests, ?_⟩
  · rw [waiting, state]
    exact .cons (.configured .advertising (.connection c.context)) (.cons (.listened opened allowed)
      (.cons (.delivered _ _) (.cons (.transmitted pdu sent allowed) (.nil _))))
  · intro c' established
    rw [state] at established
    cases established
    exact ⟨hops.used, hops.current⟩

theorem Step.orderly_of_connected {link link' : Link} {w w' : World P} {event : LinkEvent}
    {c : Connection} (h : link.Step w event link' w') (rest : link.AtRest w.radio)
    (connected : link.state = .connected c) : link.Orderly w link' w' := by
  have rests := rest.rests
  rw [connected] at rests
  obtain ⟨heard, radio, new, i, j, hears, reacts, -⟩ := h.of_connected connected
  obtain ⟨hearing, listened, logged⟩ := hears.log_eq
  obtain ⟨reaction, reacted, logged'⟩ := reacts.log_eq
  have kept : (c.nextEvent.after heard).Hops := (rest.hops c (by rw [connected]; rfl)).after heard
  have context : (c.nextEvent.after heard).context = c.context := Connection.after_context _ _
  have hearingUse := logged.usage (.connection c.context)
    (by rw [← Connection.after_channel _ heard, ← context]; exact kept.current) link.config.phy
  have reactionUse := logged'.usage kept
  rw [context] at reactionUse
  refine ⟨hearing ++ reaction, by rw [reacted, listened, List.append_assoc], ?_, ?_, ?_⟩
  · rw [connected]
    exact hearingUse.append reactionUse
  · have listens := hears.restsAt
    rw [rests.tuned] at listens
    exact reacts.restsAt listens
  · intro c' stays
    obtain rfl | rfl := reacts.link_eq
    · cases stays
      exact kept
    · cases stays

theorem Step.orderly {link link' : Link} {w w' : World P} {event : LinkEvent}
    (h : link.Step w event link' w') (rest : link.AtRest w.radio) : link.Orderly w link' w' := by
  cases state : link.state with
  | advertising => exact h.orderly_of_advertising rest state
  | connectRequest c => exact h.orderly_of_connectRequest rest state
  | connected c => exact h.orderly_of_connected rest state

omit [Peer P] in
theorem Pause.atRest {link link' : Link} {w w' : World P} (h : link.Pause w link' w')
    (rest : link.AtRest w.radio) : link'.AtRest w'.radio := by
  rw [h.link_eq, h.radio_eq]
  exact ⟨⟨rest.rests.quiet, rest.rests.tuned⟩, rest.hops⟩

theorem Course.disciplined {link link' : Link} {w w' : World P} {stages : List Stage}
    (course : Course link w stages link' w') (rest : link.AtRest w.radio) :
    link'.AtRest w'.radio ∧ ∃ logs,
      w'.radio.journal.toList = w.radio.journal.toList ++ logs.flatten ∧
      Usage.After link.config.phy ⟨link.state.regime, false⟩ logs.flatten
        ⟨link'.state.regime, false⟩ ∧
      List.Forall₂ (fun stage log => Usage.After link.config.phy
        ⟨stage.before.state.regime, false⟩ log ⟨stage.after.state.regime, false⟩) stages logs := by
  induction course with
  | done pause =>
    refine ⟨pause.atRest rest, [], ?_, ?_, .nil⟩
    · rw [pause.radio_eq, List.flatten_nil, List.append_nil]
    · rw [pause.link_eq]
      exact .nil _
  | @step link link₁ link₂ link' w w₁ w₂ w' event stages pause step later ih =>
    obtain ⟨log, journal, use, rest₂⟩ := step.orderly (pause.atRest rest)
    obtain ⟨rest', logs, journal', uses, each⟩ := ih rest₂
    have config : link₂.config = link.config := by rw [step.config_eq, pause.link_eq]
    have config₁ : link₁.config = link.config := by rw [pause.link_eq]
    have state₁ : link₁.state = link.state := by rw [pause.link_eq]
    rw [config] at uses each
    rw [config₁] at use
    refine ⟨rest', log :: logs, ?_, ?_, .cons use each⟩
    · rw [journal', journal, pause.radio_eq, List.flatten_cons, List.append_assoc]
    · rw [List.flatten_cons, ← state₁]
      exact use.append uses

/-- Over every run from a fresh start the radio is at rest between steps and tuned to what the
state asks for, each step uses it properly, and a wait returns no frame but the one that has
just been delivered. -/
theorem radio_discipline {config : LinkConfig} {controls : ControlTable} {clock : Clock} {peer : P}
    {link link' : Link} {w w' : World P} {stages : List Stage}
    (started : start config controls { clock, peer } = .ok (link, w))
    (course : Course link w stages link' w') :
    w'.radio.listening = none ∧
      w'.radio.accessAddress = link'.state.regime.accessAddress ∧
      lastTuning? w'.radio.journal.toList =
        some (link'.state.regime.accessAddress, link'.state.regime.crcInit, config.phy) ∧
      (∃ logs, w'.radio.journal.toList =
          .configured advAccessAddress advCrcInit config.phy :: logs.flatten ∧
        List.Forall₂ (fun stage log => Usage.After config.phy
          ⟨stage.before.state.regime, false⟩ log ⟨stage.after.state.regime, false⟩) stages logs) ∧
      (∀ (radio radio' : Radio P) (start : Tick) (span : UInt32) (polls rest : Nat)
        (frame : RxFrame), radio.listen start span polls = ⟨some (some frame), rest, radio'⟩ →
        radio'.received = some frame ∧
          radio'.journal.toList = radio.journal.toList ++ [.delivered frame]) ∧
      ∀ (radio radio' : Radio P) (polls rest : Nat) (frame : RxFrame),
        radio.waitForFrame polls = ⟨some frame, rest, radio'⟩ →
        radio'.received = some frame ∧
          radio'.journal.toList = radio.journal.toList ++ [.delivered frame] := by
  obtain ⟨prepared, prepares, rfl, rfl⟩ := start_eq_ok.mp started
  have rest : AtRest (P := P) { config, prepared, controls }
      (Radio.configure { clock, peer } advAccessAddress advCrcInit config.phy) :=
    ⟨⟨rfl, rfl⟩, nofun⟩
  obtain ⟨⟨rests, -⟩, logs, journal, uses, each⟩ := course.disciplined rest
  refine ⟨rests.quiet, rests.tuned, ?_, ⟨logs, journal, each⟩, ?_, ?_⟩
  · rw [journal]
    exact uses.lastTuning rfl
  · intro radio radio' start span polls rest frame listened
    have heard := Radio.listen_eq_some listened
    exact ⟨heard.received_eq, heard.journal_some⟩
  · intro radio radio' polls rest frame waited
    obtain ⟨n, opened, delivery, -, -, -, -, rfl⟩ := Radio.waitForFrame_eq_some waited
    exact ⟨rfl, Radio.deliver_journal _ _⟩

/-- A connection is opened, hears a malformed frame, misses a window and is terminated. -/
theorem radio_discipline_of_termination :
    ∃ (controls : ControlTable) (clock : Clock) (peer : ScriptedPeer) (link link' : Link)
      (w w' : World ScriptedPeer) (stages : List Stage),
      start {} controls { clock, peer } = .ok (link, w) ∧ Course link w stages link' w' ∧
      stages.length = 5 ∧ link'.state = .advertising ∧ w'.radio.listening = none ∧
      w'.radio.accessAddress = advAccessAddress ∧
      lastTuning? w'.radio.journal.toList = some (advAccessAddress, advCrcInit, link.config.phy) ∧
      ∃ logs, w'.radio.journal.toList =
          .configured advAccessAddress advCrcInit link.config.phy :: logs.flatten ∧
        List.Forall₂ (fun stage log => Usage.After link.config.phy
          ⟨stage.before.state.regime, false⟩ log ⟨stage.after.state.regime, false⟩) stages logs := by
  have passes : testStart (({} : ControlTable).register .terminateInd .terminateOnRequest)
      [some ⟨100, [0x01, 0]⟩, some ⟨100, [0x01]⟩, none, some ⟨100, [0x0b, 2, 0x02, 0x13]⟩] 0
      (fun link w => LinkM.test link.step { w with polls := 10 } fun outcome w₁ =>
        LinkM.test outcome.2.step { w₁ with polls := 10 } fun outcome w₂ =>
          testRun 500 (fun link' _ => link'.state = .advertising) 3 outcome.2 w₂) = true := by
    decide +kernel
  obtain ⟨link, w, started, passes⟩ := start_of_test passes
  obtain ⟨event, link₁, w₁, advertised, passes⟩ := Step.of_test passes
  obtain ⟨event₁, link₂, w₂, established, passes⟩ := Step.of_test passes
  obtain ⟨stages, link', w', run, length, -, passes⟩ := Run.of_test passes
  have ended : link'.state = .advertising := of_decide_eq_true passes
  have course : Course link w (⟨link, event, link₁⟩ :: ⟨link₁, event₁, link₂⟩ :: stages) link' w' :=
    .step (.refl link w) advertised (.step (.refl link₁ w₁) established run.course)
  obtain ⟨quiet, tuned, last, each, -, -⟩ := radio_discipline started course
  obtain ⟨prepared, -, rfl, -⟩ := start_eq_ok.mp started
  rw [ended] at tuned last
  exact ⟨_, _, _, _, link', w, w', _, started, course, by simp [length], ended, quiet, tuned, last,
    each⟩

end Link

end BlePeripheral

import Mathlib.Data.List.Chain
import BlePeripheral.Proofs.Advertising.Prepared
import BlePeripheral.Proofs.Link.Pace
import BlePeripheral.Proofs.Link.Walk

/-! The advertisements of a whole run: on which channels they go out and how far apart. What comes
between two of them, be it a scan response, a refused request or a connection, changes neither. -/

namespace BlePeripheral

def PduType.isAnnouncement : PduType → Bool
  | advInd | advDirectInd | advNonconnInd | advScanInd => true
  | _ => false

def isAdvertisement (pdu : Bytes) : Bool :=
  match AdvPdu.ofBytes pdu with
  | .ok read => read.pduType.isAnnouncement
  | .error _ => false

structure Advertisement where
  channel : UInt8
  pdu : Bytes
  time : Nat
deriving DecidableEq, Repr

def Advertisement.Spaced (interval : Nat) (first second : Advertisement) : Prop :=
  first.time + interval ≤ second.time

def RadioEvent.advertisement? : RadioEvent → Option Advertisement
  | transmitted channel pdu time => if isAdvertisement pdu then some ⟨channel, pdu, time⟩ else none
  | _ => none

def Radio.advertisements {P : Type} (radio : Radio P) : List Advertisement :=
  radio.journal.toList.filterMap RadioEvent.advertisement?

theorem Radio.advertisements_append {P : Type} {radio radio' : Radio P} {log : List RadioEvent}
    (h : radio'.journal.toList = radio.journal.toList ++ log) :
    radio'.advertisements = radio.advertisements ++ log.filterMap RadioEvent.advertisement? := by
  rw [advertisements, h, List.filterMap_append, advertisements]

@[simp] theorem World.advertisements_later {P : Type} (w : World P) (wait : Nat) :
    (w.later wait).radio.advertisements = w.radio.advertisements := rfl

def Turn.advertises (turn : Turn) : Bool := turn.stage.before.state.phase = .advertising

namespace LinkConfig

def advInterval (config : LinkConfig) : Nat := (config.tickRate.ticksForMs config.advIntervalMs).toNat

variable {config : LinkConfig} {prepared : PreparedPdus}

theorem Announces.isAdvertisement_eq {pduType : PduType} {structures : List AdStructure} {pdu : Bytes}
    (h : config.Announces pduType structures pdu) : isAdvertisement pdu = pduType.isAnnouncement := by
  obtain ⟨header, body, reads, type, -⟩ := h
  rw [isAdvertisement, reads, ← type]
  rfl

theorem isAdvertisement_advertisement (h : config.prepare = .ok prepared) :
    isAdvertisement prepared.advertisement = true := by
  rw [(announces_advertisement h).isAdvertisement_eq]
  cases config.mode <;> rfl

theorem isAdvertisement_scanResponse (h : config.prepare = .ok prepared) {response : Bytes}
    (some : prepared.scanResponse = some response) : isAdvertisement response = false :=
  (announces_scanResponse h some).isAdvertisement_eq

end LinkConfig

theorem AckState.isAdvertisement_response (ack : AckState) : isAdvertisement ack.response = false := by
  rcases ack with ⟨_ | _, _ | _⟩ <;> decide

namespace Link

theorem AdvertisingLog.advertisements_later_eq_nil {link : Link} {heard : Option RxFrame} {channel : UInt8}
    {pdu : Bytes} {time : Nat} {later : List RadioEvent}
    (h : link.AdvertisingLog heard (.transmitted channel pdu time :: later))
    (prepares : link.config.prepare = .ok link.prepared) :
    later.filterMap RadioEvent.advertisement? = [] := by
  cases h with
  | broadcast | silence | passed => rfl
  | answered sent opened answered listens asked =>
    obtain ⟨_, _, -, -, -, response⟩ := scanResponse?_eq_some.mp asked
    have silent := LinkConfig.isAdvertisement_scanResponse prepares response
    simp [RadioEvent.advertisement?, silent]

variable {P : Type} [Peer P]

theorem Step.sends {link link' : Link} {w w' : World P} {event : LinkEvent}
    (h : link.Step w event link' w') (advertising : link.state = .advertising)
    (prepares : link.config.prepare = .ok link.prepared) :
    ∃ n, link.Waited w.radio.clock n ∧
      w'.radio.advertisements = w.radio.advertisements ++ [⟨advChannel link.advIndex,
        link.prepared.advertisement, (w.radio.clock.afterReads (n + 1)).time⟩] ∧
      (w.radio.clock.afterReads (n + 1)).ReadsTo w'.radio.clock ∧
      link'.advIndex = link.advIndex + 1 ∧
      link'.lastAdv = some (w.radio.clock.afterReads n).now := by
  obtain ⟨n, heard, waited, advertises, -⟩ := h.advertises advertising
  have clock : (w.radio.afterReads n).clock.afterReads 1 = w.radio.clock.afterReads (n + 1) :=
    w.radio.clock.afterReads_afterReads n 1
  refine ⟨n, waited, ?_, clock ▸ advertises.readsTo, ?_⟩
  · obtain ⟨later, journal, logged⟩ := advertises.log_eq
    have announces := LinkConfig.isAdvertisement_advertisement prepares
    rw [advertisement, Radio.transmit_journal, List.append_assoc] at journal
    rw [Radio.advertisements_append journal, List.filterMap_append,
      logged.advertisements_later_eq_nil prepares, ← clock]
    simp [RadioEvent.advertisement?, announces, Radio.advertisements]
  · rw [advertises.link_eq]
    unfold withRequested
    split <;> exact ⟨rfl, rfl⟩

theorem Establishes.advertisements_eq {link : Link} {c : Connection} {radio radio' : Radio P}
    {frame : RxFrame} {n m : Nat} (h : link.Establishes c radio frame radio' n m) :
    radio'.advertisements = radio.advertisements := by
  rw [h.radio_eq]
  simp [Radio.advertisements, greeted, awaiting, RadioEvent.advertisement?,
    AckState.isAdvertisement_response]

theorem Hears.advertisements_eq {c : Connection} {radio radio' : Radio P} {heard : Option RxFrame}
    {i j : Nat} (h : Hears c radio heard radio' i j) :
    radio'.advertisements = radio.advertisements := by
  obtain ⟨log, journal, logged⟩ := h.log_eq
  rw [Radio.advertisements_append journal]
  cases logged <;> exact List.append_nil _

theorem Reacts.advertisements_eq {link link' : Link} {c : Connection} {radio radio' : Radio P}
    {heard : Option RxFrame} {event : LinkEvent} {new : List ControlPdu}
    (h : link.Reacts c radio heard event link' radio' new) :
    radio'.advertisements = radio.advertisements := by
  cases h <;>
    simp [Radio.advertisements, RadioEvent.advertisement?, AckState.isAdvertisement_response]

theorem Step.sends_none {link link' : Link} {w w' : World P} {event : LinkEvent}
    (h : link.Step w event link' w') (otherwise : link.state ≠ .advertising) :
    w'.radio.advertisements = w.radio.advertisements ∧
      link'.advIndex = link.advIndex ∧ link'.lastAdv = link.lastAdv := by
  cases state : link.state with
  | advertising => exact absurd state otherwise
  | connectRequest c =>
    obtain ⟨frame, n, m, establishes, rfl⟩ := h.setsUp state
    exact ⟨establishes.advertisements_eq, rfl, rfl⟩
  | connected c =>
    obtain ⟨heard, radio, new, i, j, hears, reacts, -⟩ := h.of_connected state
    refine ⟨by rw [reacts.advertisements_eq, hears.advertisements_eq], ?_⟩
    obtain rfl | rfl := reacts.link_eq <;> exact ⟨rfl, rfl⟩

theorem Waited.add_advInterval_le {link : Link} {clock : Clock} {n read : Nat}
    (h : link.Waited clock n) (last : link.lastAdv = some (Time.tick read))
    (begun : read ≤ clock.time) :
    read + link.config.advInterval ≤ (clock.afterReads n).time := by
  obtain ⟨i, before, passed⟩ := h _ last
  have enough := Clock.start_add_le_of_elapsedAt begun passed
  have later : (clock.afterReads i).time ≤ (clock.afterReads n).time :=
    Nat.add_le_add_left (Nat.mul_le_mul_right _ (Nat.le_of_lt before)) _
  exact Nat.le_trans enough later

/-- The advertisements that have been sent are those of the schedule, and the link is set to go on
with it: it has kept the tick that was read before the last of them, however long ago that was. -/
structure OnSchedule (link : Link) (radio : Radio P) : Prop where
  prepares : link.config.prepare = .ok link.prepared
  index : link.advIndex.val = radio.advertisements.length % 3
  inTurn : ∀ k ad, radio.advertisements[k]? = some ad →
    ad.channel = UInt8.ofNat (37 + k % 3) ∧ ad.pdu = link.prepared.advertisement
  spaced : radio.advertisements.IsChain (Advertisement.Spaced link.config.advInterval)
  last : ∀ ad ∈ radio.advertisements.getLast?, ∃ read, link.lastAdv = some (Time.tick read) ∧
    ad.time = read + radio.clock.step.toNat ∧ ad.time ≤ radio.clock.time

namespace OnSchedule

omit [Peer P] in
theorem later {link : Link} {w : World P} (h : link.OnSchedule w.radio) (wait : Nat) :
    link.OnSchedule (w.later wait).radio := by
  refine ⟨h.prepares, h.index, h.inTurn, h.spaced, ?_⟩
  intro ad last
  obtain ⟨read, kept, sent, past⟩ := h.last ad last
  exact ⟨read, kept, sent, Nat.le_add_right_of_le past⟩

theorem step_of_advertising {link link' : Link} {w w' : World P} {event : LinkEvent}
    (h : link.OnSchedule w.radio) (step : link.Step w event link' w')
    (advertising : link.state = .advertising) : link'.OnSchedule w'.radio := by
  obtain ⟨config, prepared, -⟩ := step.setup_eq
  obtain ⟨n, waited, sent, reads, index, lastAdv⟩ := step.sends advertising h.prepares
  have clock : (w.radio.clock.afterReads (n + 1)).time =
      (w.radio.clock.afterReads n).time + w.radio.clock.step.toNat := by
    simp only [Clock.afterReads_time, Nat.succ_mul, Nat.add_assoc]
  constructor
  · rw [config, prepared]
    exact h.prepares
  · have before := h.index
    rw [index, sent, List.length_append, List.length_singleton, Fin.val_add, before]
    exact Nat.mod_add_mod _ _ _
  · intro k ad turn
    rw [prepared]
    rw [sent, List.getElem?_append] at turn
    by_cases past : k < w.radio.advertisements.length
    · rw [if_pos past] at turn
      exact h.inTurn k ad turn
    · rw [if_neg past, List.getElem?_singleton] at turn
      split at turn
      · rename_i last
        cases turn
        have same : k = w.radio.advertisements.length := by omega
        refine ⟨?_, rfl⟩
        rw [same, ← h.index]
        rfl
      · cases turn
  · rw [config, sent, List.isChain_append]
    refine ⟨h.spaced, .singleton _, ?_⟩
    rintro first last _ ⟨⟩
    obtain ⟨read, kept, time, past⟩ := h.last first last
    have enough := waited.add_advInterval_le kept (by omega)
    show first.time + link.config.advInterval ≤ (w.radio.clock.afterReads (n + 1)).time
    rw [time, clock]
    omega
  · rw [sent, List.getLast?_concat, lastAdv, step.clock_step]
    rintro _ ⟨⟩
    exact ⟨_, rfl, clock, reads.time_le⟩

theorem step {link link' : Link} {w w' : World P} {event : LinkEvent}
    (h : link.OnSchedule w.radio) (step : link.Step w event link' w') : link'.OnSchedule w'.radio := by
  by_cases advertising : link.state = .advertising
  · exact h.step_of_advertising step advertising
  · obtain ⟨config, prepared, -⟩ := step.setup_eq
    obtain ⟨same, index, lastAdv⟩ := step.sends_none advertising
    constructor
    · rw [config, prepared]
      exact h.prepares
    · rw [index, same]
      exact h.index
    · rw [same, prepared]
      exact h.inTurn
    · rw [same, config]
      exact h.spaced
    · rw [same, lastAdv, step.clock_step]
      intro ad last
      obtain ⟨read, kept, sent, past⟩ := h.last ad last
      exact ⟨read, kept, sent, Nat.le_trans past step.readsTo.time_le⟩

theorem walk {link link' : Link} {w w' : World P} {turns : List Turn} (h : link.OnSchedule w.radio)
    (walk : Walk link w turns link' w') : link'.OnSchedule w'.radio := by
  induction walk with
  | nil => exact h
  | cons step rest ih => exact ih ((h.later _).step step)

end OnSchedule

omit [Peer P] in
theorem onSchedule_of_start {config : LinkConfig} {controls : ControlTable} {clock : Clock}
    {peer : P} {link : Link} {w : World P}
    (started : start config controls { clock, peer } = .ok (link, w)) :
    link.OnSchedule w.radio ∧ w.radio.advertisements = [] := by
  obtain ⟨prepared, prepares, rfl, rfl⟩ := start_eq_ok.mp started
  exact ⟨⟨prepares, rfl, nofun, .nil, nofun⟩, rfl⟩

theorem Step.sends_one_or_none {link link' : Link} {w w' : World P} {event : LinkEvent}
    (h : link.Step w event link' w') (prepares : link.config.prepare = .ok link.prepared) :
    ∃ new, w'.radio.advertisements = w.radio.advertisements ++ new ∧
      new.length = if link.state.phase = .advertising then 1 else 0 := by
  cases state : link.state with
  | advertising =>
    obtain ⟨n, -, sent, -⟩ := h.sends state prepares
    exact ⟨_, sent, rfl⟩
  | connectRequest c | connected c =>
    obtain ⟨same, -⟩ := h.sends_none (by rw [state]; exact nofun)
    exact ⟨[], by rw [same, List.append_nil], rfl⟩

theorem Walk.length_advertisements {link link' : Link} {w w' : World P} {turns : List Turn}
    (walk : Walk link w turns link' w') (prepares : link.config.prepare = .ok link.prepared) :
    w'.radio.advertisements.length =
      w.radio.advertisements.length + turns.countP Turn.advertises := by
  induction walk with
  | nil => rfl
  | cons step rest ih =>
    obtain ⟨config, prepared, -⟩ := step.setup_eq
    obtain ⟨new, sent, count⟩ := step.sends_one_or_none prepares
    rw [ih (by rw [config, prepared]; exact prepares), sent, List.length_append, count,
      World.advertisements_later, List.countP_cons, Nat.add_assoc, Nat.add_comm (ite _ _ _)]
    simp only [Turn.advertises, decide_eq_true_eq]

/-- Over every run the advertisements that go out are the prepared one on the channels 37, 38 and 39
in turn, one for each step that advertises and none for any other, and by the true time there is at
least the advertising interval from each to the next, though the counter may have wrapped. -/
theorem advertisements_in_turn {config : LinkConfig} {controls : ControlTable} {clock : Clock}
    {peer : P} {link link' : Link} {w w' : World P} {turns : List Turn}
    (started : start config controls { clock, peer } = .ok (link, w))
    (walk : Walk link w turns link' w') :
    ∃ prepared, config.prepare = .ok prepared ∧
      (∀ k ad, w'.radio.advertisements[k]? = some ad →
        ad.channel = UInt8.ofNat (37 + k % 3) ∧ ad.pdu = prepared.advertisement) ∧
      w'.radio.advertisements.length = turns.countP Turn.advertises ∧
      (∀ wait event link'' w'', link'.Step (w'.later wait) event link'' w'' →
        ∃ new, w''.radio.advertisements = w'.radio.advertisements ++ new ∧
          new.length = if link'.state.phase = .advertising then 1 else 0) ∧
      w'.radio.advertisements.IsChain (Advertisement.Spaced config.advInterval) := by
  obtain ⟨begins, none⟩ := onSchedule_of_start started
  have schedule := begins.walk walk
  have count := walk.length_advertisements begins.prepares
  rw [none, List.length_nil, Nat.zero_add] at count
  obtain ⟨prepared, prepares, rfl, -⟩ := start_eq_ok.mp started
  obtain ⟨same, kept, -⟩ := walk.setup_eq
  have inTurn := schedule.inTurn
  have spaced := schedule.spaced
  rw [kept] at inTurn
  rw [same] at spaced
  refine ⟨prepared, prepares, inTurn, count, ?_, spaced⟩
  intro wait event link'' w'' step
  exact step.sends_one_or_none schedule.prepares

/-- A connection comes between the first two advertisements, and the counter wraps twice. -/
theorem advertisements_in_turn_of_connection :
    ∃ (controls : ControlTable) (clock : Clock) (peer : ScriptedPeer) (link link' : Link)
      (w w' : World ScriptedPeer) (turns : List Turn),
      start {} controls { clock, peer } = .ok (link, w) ∧ Walk link w turns link' w' ∧
      turns.map (fun turn => (turn.wait, turn.event)) =
        [(0, .connectRequested (.ofAir [0xb0, 0xec, 0xa7, 0x55, 0xd4, 0x6b]) 0x50654b3a 7),
          (0, .connected 0x50654b3a 7), (0, .eventMissed (.windowMiss 1) 1),
          (4294967296, .terminated (some 0x13)), (4294000000, .advertised 38),
          (500000, .advertised 39)] ∧
      w'.radio.advertisements.map Advertisement.time = [4294961000, 12883970296, 12884475296] ∧
      ∃ prepared, ({} : LinkConfig).prepare = .ok prepared ∧
        (∀ k ad, w'.radio.advertisements[k]? = some ad →
          ad.channel = UInt8.ofNat (37 + k % 3) ∧ ad.pdu = prepared.advertisement) ∧
        w'.radio.advertisements.length = turns.countP Turn.advertises ∧
        (∀ wait event link'' w'', link'.Step (w'.later wait) event link'' w'' →
          ∃ new, w''.radio.advertisements = w'.radio.advertisements ++ new ∧
            new.length = if link'.state.phase = .advertising then 1 else 0) ∧
        w'.radio.advertisements.IsChain (Advertisement.Spaced ({} : LinkConfig).advInterval) := by
  have passes : testFrom {} (({} : ControlTable).register .terminateInd .terminateOnRequest)
      ⟨4294960000, 1000⟩
      (connectingPeer [some ⟨100, [0x01, 0]⟩, none, some ⟨100, [0x0b, 2, 0x02, 0x13]⟩])
      (testTurns 100 (fun _ w' => w'.radio.advertisements.map Advertisement.time =
          [4294961000, 12883970296, 12884475296])
        [(0, .connectRequested (.ofAir [0xb0, 0xec, 0xa7, 0x55, 0xd4, 0x6b]) 0x50654b3a 7),
          (0, .connected 0x50654b3a 7), (0, .eventMissed (.windowMiss 1) 1),
          (4294967296, .terminated (some 0x13)), (4294000000, .advertised 38),
          (500000, .advertised 39)]) = true := by
    decide +kernel
  obtain ⟨link, w, started, passes⟩ := start_of_testFrom passes
  obtain ⟨turns, link', w', walk, events, passes⟩ := Walk.of_testTurns passes
  exact ⟨_, _, _, link, link', w, w', turns, started, walk, events, of_decide_eq_true passes,
    advertisements_in_turn started walk⟩

end Link

end BlePeripheral

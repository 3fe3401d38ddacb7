import BlePeripheral.Proofs.Link.Advertisements
import BlePeripheral.Proofs.Link.Windows

/-! The inter-frame space between a frame and its answer. A frame is noticed by polling, up to two
steps after it is complete, and the wait for its answer is polled again. The space counts from the
timestamp of the frame, so what has been lost until then is not added to it: unless the frame is
noticed too late for that, the answer goes out within two steps after the space has passed. -/

namespace BlePeripheral

/-- An answer that goes out `gap` ticks after its frame keeps the inter-frame space and waits for
hardly more than that, with a clock that moves by `step` at each reading. -/
structure KeepsSpace (space step gap : Nat) : Prop where
  least : space + step ≤ gap
  most : gap < max space (2 * step) + 2 * step
  exact : step = 1 → 2 ≤ space → gap = space + 1

namespace Clock

variable {clock : Clock}

/-- What a clock shows when the reading before has found a frame that was complete for less than two
steps. -/
structure Noticed (clock : Clock) (timestamp : Tick) : Prop where
  least : clock.step.toNat ≤ (elapsedSince clock.now timestamp).toNat
  most : (elapsedSince clock.now timestamp).toNat < 3 * clock.step.toNat

theorem noticed_of_found {delay : UInt32} {k : Nat} (room : 3 * clock.step.toNat < 4294967296)
    (least : delay.toNat ≤ k * clock.step.toNat)
    (most : k * clock.step.toNat < delay.toNat + 2 * clock.step.toNat) :
    (clock.afterReads (k + 1)).Noticed (clock.now + delay) := by
  obtain ⟨late, found⟩ := Nat.exists_eq_add_of_le least
  have time : (clock.afterReads (k + 1)).time =
      clock.time + delay.toNat + (late + clock.step.toNat) := by
    rw [afterReads_time, Nat.succ_mul]
    omega
  have shown : (elapsedSince (clock.afterReads (k + 1)).now (clock.now + delay)).toNat =
      late + clock.step.toNat := by
    rw [now, now, ← Time.tick_add, time, elapsedSince_tick_add, UInt32.toNat_ofNat']
    exact Nat.mod_eq_of_lt (by omega)
  constructor <;> rw [shown, afterReads_step] <;> omega

theorem Noticed.keepsSpace {timestamp : Tick} {space : UInt32} {m : Nat}
    (h : clock.Noticed timestamp) (room : space.toNat + 4 * clock.step.toNat < 4294967296)
    (passed : clock.elapsedAt timestamp space m = true)
    (before : ∀ i < m, clock.elapsedAt timestamp space i = false) :
    KeepsSpace space.toNat clock.step.toNat
      (elapsedSince (clock.afterReads (m + 1)).now timestamp).toNat := by
  have near := h.least
  have late := h.most
  have single : space.toNat + 1 * clock.step.toNat < 4294967296 := by omega
  obtain ⟨found, last⟩ := first_found 0 1 single (by simpa using passed) (by simpa using before)
  rw [afterReads_zero, Nat.one_mul] at found last
  have none : m = 0 → m * clock.step.toNat = 0 := fun zero => by rw [zero, Nat.zero_mul]
  rw [toNat_elapsedSince_later, Nat.succ_mul, Nat.mod_eq_of_lt (by omega)]
  constructor <;> omega

end Clock

namespace Radio

variable {P : Type} [Peer P]

/-- A frame is noticed in time by readings that are at most two steps apart, if the first of them
comes sooner than the next would after the radio has begun to listen. -/
theorem noticed_of_due {radio : Radio P} {channel : UInt8} {opened : Tick} {delivery : Delivery}
    {n : Nat} (first stride : Nat)
    (awaited : (radio.receive channel).2.awaited = some (opened, delivery))
    (begins : first < stride) (near : stride ≤ 2) (moves : 0 < radio.clock.step.toNat)
    (due : radio.clock.elapsedAt opened delivery.delay (first + n * stride) = true)
    (early : ∀ i < n, (radio.receive channel).2.dueAt (first + i * stride) = false)
    (room : 3 * radio.clock.step.toNat < 4294967296) :
    opened = radio.clock.now ∧ (delivery.delay.toNat + 2 * radio.clock.step.toNat < 4294967296 →
      (radio.clock.afterReads (first + n * stride + 1)).Noticed
        (completed opened delivery).timestamp) := by
  obtain rfl : opened = radio.clock.now := by
    rw [awaited_receive] at awaited
    obtain ⟨_, -, same⟩ := Option.map_eq_some_iff.mp awaited
    exact (Prod.mk.inj same).1.symm
  refine ⟨rfl, ?_⟩
  intro brief
  have steps : stride * radio.clock.step.toNat ≤ 2 * radio.clock.step.toNat :=
    Nat.mul_le_mul_right _ near
  simp only [dueAt_of_awaited awaited, receive_clock] at early
  obtain ⟨least, most⟩ := Clock.found_within begins moves (by omega) due early
  exact Clock.noticed_of_found room least (by omega)

theorem Heard.noticed {radio radio' : Radio P} {channel : UInt8} {start : Tick} {span : UInt32}
    {first : Nat} {frame : RxFrame}
    (h : ((radio.receive channel).2.afterReads first).Heard start span (some frame) radio')
    (begins : first < 2) (moves : 0 < radio.clock.step.toNat)
    (room : 3 * radio.clock.step.toNat < 4294967296) :
    ∃ delivery, frame = completed radio.clock.now delivery ∧
      (delivery.delay.toNat + 2 * radio.clock.step.toNat < 4294967296 →
        radio'.clock.Noticed frame.timestamp) := by
  cases h with
  | frame n opened delivery awaited due early =>
    simp only [awaited_afterReads, afterReads_clock, receive_clock, Clock.elapsedAt_afterReads,
      dueAt_afterReads, Nat.mul_comm 2] at awaited due early
    obtain ⟨rfl, noticed⟩ := noticed_of_due first 2 awaited begins (Nat.le_refl 2) moves due early room
    refine ⟨delivery, rfl, ?_⟩
    rw [deliver_clock, afterReads_clock, afterReads_clock, receive_clock,
      Clock.afterReads_afterReads, Nat.mul_comm 2 n, ← Nat.add_assoc]
    exact noticed

end Radio

/-- All that is sent in a log, but the advertisement, answers the frame that has just come in on that
channel, and keeps the inter-frame space after it if its delay is one that the counter can show. -/
def SpacedResponses (advertisement : Bytes) (space step : Nat) (log : List RadioEvent) : Prop :=
  ∀ before channel pdu sent after, log = before ++ .transmitted channel pdu sent :: after →
    (pdu = advertisement ∧ isAdvertisement pdu = true) ∨ ∃ earlier opened delivery,
      before = earlier ++ [.listened channel opened,
        .delivered (Radio.completed (Time.tick opened) delivery)] ∧
      (delivery.delay.toNat + 2 * step < 4294967296 → KeepsSpace space step (elapsedSince
        (Time.tick sent) (Radio.completed (Time.tick opened) delivery).timestamp).toNat)

namespace SpacedResponses

variable {advertisement : Bytes} {space step : Nat} {log log' : List RadioEvent}

theorem of_silent (silent : log.filterMap RadioEvent.sent? = []) :
    SpacedResponses advertisement space step log := by
  intro before channel pdu sent after split
  simp [split, RadioEvent.sent?] at silent

theorem announce (announces : isAdvertisement advertisement = true) (channel : UInt8) (sent : Nat) :
    SpacedResponses advertisement space step [.transmitted channel advertisement sent] := by
  intro before channel' pdu sent' after split
  cases before with
  | nil =>
    cases split
    exact .inl ⟨rfl, announces⟩
  | cons event before => simp at split

theorem append (h : SpacedResponses advertisement space step log)
    (h' : SpacedResponses advertisement space step log') :
    SpacedResponses advertisement space step (log ++ log') := by
  intro before channel pdu sent after split
  obtain ⟨between, rfl, rest⟩ | ⟨between, rfl, rest⟩ := List.append_eq_append_iff.mp split
  · refine (h' _ _ _ _ _ rest).imp_right ?_
    rintro ⟨earlier, opened, delivery, rfl, keeps⟩
    exact ⟨log ++ earlier, opened, delivery, by rw [List.append_assoc], keeps⟩
  · cases between with
    | nil =>
      refine (h' [] _ _ _ _ rest.symm).imp_right ?_
      rintro ⟨earlier, opened, delivery, same, -⟩
      simp at same
    | cons event between =>
      cases rest
      exact h _ _ _ _ _ rfl

theorem answer {channel : UInt8} {pdu : Bytes} {opened sent : Nat} {delivery : Delivery}
    (keeps : delivery.delay.toNat + 2 * step < 4294967296 → KeepsSpace space step
      (elapsedSince (Time.tick sent)
        (Radio.completed (Time.tick opened) delivery).timestamp).toNat) :
    SpacedResponses advertisement space step [.listened channel opened,
      .delivered (Radio.completed (Time.tick opened) delivery), .transmitted channel pdu sent] := by
  intro before channel' pdu' sent' after split
  rcases before with _ | ⟨_, _ | ⟨_, _ | ⟨_, before⟩⟩⟩
  · cases split
  · cases split
  · cases split
    exact .inr ⟨[], opened, delivery, rfl, keeps⟩
  · simp at split

end SpacedResponses

namespace Link

open LinkM

variable {P : Type} [Peer P]

theorem Advertises.spacedResponses {link link' : Link} {radio radio' : Radio P}
    {heard : Option RxFrame} {event : LinkEvent}
    (h : link.Advertises radio heard event link' radio')
    (prepares : link.config.prepare = .ok link.prepared) (moves : 0 < radio.clock.step.toNat)
    (room : link.config.tickRate.interFrameSpace.toNat + 4 * radio.clock.step.toNat < 4294967296) :
    ∃ log, radio'.journal.toList = radio.journal.toList ++ log ∧
      SpacedResponses link.prepared.advertisement link.config.tickRate.interFrameSpace.toNat
        radio.clock.step.toNat log := by
  have announces := LinkConfig.isAdvertisement_advertisement prepares
  have listens : (link.listening radio).journal.toList = radio.journal.toList ++
      [.transmitted (advChannel link.advIndex) link.prepared.advertisement
          (radio.afterReads 1).clock.time,
        .listened (advChannel link.advIndex) (link.advertisement radio).clock.time] := by
    simp [listening, advertisement]
  have announced : SpacedResponses link.prepared.advertisement
      link.config.tickRate.interFrameSpace.toNat radio.clock.step.toNat
      [.transmitted (advChannel link.advIndex) link.prepared.advertisement
        (radio.afterReads 1).clock.time] :=
    .announce announces _ _
  cases h with
  | broadcast => exact ⟨_, Radio.transmit_journal _ _ _, announced⟩
  | silence _ window =>
    obtain ⟨closed, journal⟩ := window.journal_none
    rw [listens, List.append_assoc] at journal
    exact ⟨_, journal, announced.append (.of_silent rfl)⟩
  | @answered frame after _ _ _ _ window answers =>
    have journal := window.journal_some
    rw [listens, List.append_assoc] at journal
    cases answers with
    | connection | nothing => exact ⟨_, journal, announced.append (.of_silent rfl)⟩
    | @scanResponse response scanner n asked passed before =>
      have clock : after.clock.step = radio.clock.step := window.readsTo.step_eq
      have room' : 3 * radio.clock.step.toNat < 4294967296 := by omega
      obtain ⟨delivery, rfl, noticed⟩ := Radio.Heard.noticed window (by decide) moves room'
      rw [Radio.transmit_journal, Radio.afterReads_journal, journal, List.append_assoc]
      refine ⟨_, rfl, announced.append (.answer ?_)⟩
      intro brief
      rw [← clock] at room ⊢
      exact (noticed brief).keepsSpace room passed before

theorem Establishes.noticed {link : Link} {c : Connection} {radio radio' : Radio P}
    {frame : RxFrame} {n m : Nat} (h : link.Establishes c radio frame radio' n m)
    (moves : 0 < radio.clock.step.toNat) (room : 3 * radio.clock.step.toNat < 4294967296) :
    ∃ delivery, frame = Radio.completed radio.clock.now delivery ∧
      (delivery.delay.toNat + 2 * radio.clock.step.toNat < 4294967296 →
        (link.greeted c radio frame n).clock.Noticed frame.timestamp) := by
  obtain ⟨opened, delivery, awaited, rfl, due⟩ := h.awaited
  have early := h.early
  rw [awaiting] at awaited due early
  obtain ⟨same, noticed⟩ := Radio.noticed_of_due 0 1 awaited (by decide) (by decide) moves
    (by simpa using due) (by simpa using early) room
  rw [Nat.zero_add, Nat.mul_one] at noticed
  exact ⟨delivery, by rw [same]; rfl, noticed⟩

theorem Establishes.spacedResponses {link : Link} {c : Connection} {radio radio' : Radio P}
    {frame : RxFrame} {n m : Nat} (h : link.Establishes c radio frame radio' n m)
    (moves : 0 < radio.clock.step.toNat)
    (room : link.config.tickRate.interFrameSpace.toNat + 4 * radio.clock.step.toNat < 4294967296) :
    ∃ log, radio'.journal.toList = radio.journal.toList ++ log ∧
      SpacedResponses link.prepared.advertisement link.config.tickRate.interFrameSpace.toNat
        radio.clock.step.toNat log := by
  obtain ⟨delivery, rfl, noticed⟩ := h.noticed moves (by omega)
  have journal : radio'.journal.toList = radio.journal.toList ++
      ([.configured c.context.accessAddress c.context.crcInit link.config.phy] ++
        [.listened c.channel radio.clock.time,
          .delivered (Radio.completed radio.clock.now delivery),
          .transmitted c.channel (c.ack.afterFrame delivery.bytes).response
            (radio.clock.afterReads (n + 1 + (m + 1))).time]) := by
    rw [h.radio_eq]
    simp [greeted, awaiting, Radio.completed]
  refine ⟨_, journal, .append (.of_silent rfl) (.answer ?_)⟩
  intro brief
  have keeps := (noticed brief).keepsSpace room h.passed h.before
  rw [greeted, Radio.deliver_clock, Radio.afterReads_clock, Clock.afterReads_afterReads] at keeps
  exact keeps

theorem Hears.spacedResponses {c : Connection} {radio radio' : Radio P} {frame : RxFrame}
    {i j m : Nat} {space : UInt32} {advertisement : Bytes}
    (h : Hears c radio (some frame) radio' i j) (pdu : Bytes)
    (moves : 0 < radio.clock.step.toNat)
    (room : space.toNat + 4 * radio.clock.step.toNat < 4294967296)
    (passed : radio'.clock.elapsedAt frame.timestamp space m = true)
    (before : ∀ k < m, radio'.clock.elapsedAt frame.timestamp space k = false) :
    ∃ log, ((radio'.afterReads (m + 1)).transmit c.nextEvent.channel pdu).journal.toList =
        radio.journal.toList ++ log ∧
      SpacedResponses advertisement space.toNat radio.clock.step.toNat log := by
  have clock : radio'.clock.step = radio.clock.step := h.readsTo.step_eq
  have room' : 3 * radio.clock.step.toNat < 4294967296 := by omega
  have window := h.window
  rw [armed, ← Radio.afterReads_zero (Radio.receive _ _).2] at window
  obtain ⟨delivery, rfl, noticed⟩ := window.noticed (by decide) moves room'
  have journal := h.window.journal_some
  rw [armed, Radio.receive_journal, Radio.afterReads_journal, List.append_assoc] at journal
  rw [Radio.transmit_journal, Radio.afterReads_journal, journal, List.append_assoc]
  refine ⟨_, rfl, .answer ?_⟩
  intro brief
  rw [← clock] at room ⊢
  exact (noticed brief).keepsSpace room passed before

theorem Step.spacedResponses {link link' : Link} {w w' : World P} {event : LinkEvent}
    (h : link.Step w event link' w') (prepares : link.config.prepare = .ok link.prepared)
    (moves : 0 < w.radio.clock.step.toNat)
    (room : link.config.tickRate.interFrameSpace.toNat + 4 * w.radio.clock.step.toNat <
      4294967296) :
    ∃ log, w'.radio.journal.toList = w.radio.journal.toList ++ log ∧
      SpacedResponses link.prepared.advertisement link.config.tickRate.interFrameSpace.toNat
        w.radio.clock.step.toNat log := by
  cases state : link.state with
  | advertising =>
    obtain ⟨n, heard, advertises⟩ := h.of_advertising state
    exact advertises.spacedResponses prepares moves room
  | connectRequest c =>
    obtain ⟨frame, n, m, establishes, -⟩ := h.setsUp state
    exact establishes.spacedResponses moves room
  | connected c =>
    obtain ⟨heard, radio, new, i, j, hears, reacts, -⟩ := h.of_connected state
    obtain ⟨hearing, journal, logged⟩ := hears.log_eq
    generalize w'.radio = radio' at reacts ⊢
    cases reacts with
    | stands => exact ⟨hearing, journal, .of_silent logged.sent_eq⟩
    | lost =>
      rw [Radio.configure_journal, Radio.idle_journal, Radio.afterReads_journal, journal,
        List.append_assoc, List.append_assoc]
      exact ⟨_, rfl, .append (.of_silent logged.sent_eq) (.of_silent rfl)⟩
    | accepted n wellFormed before keeps passed =>
      exact hears.spacedResponses _ moves room passed before
    | @terminated frame pdu n request wellFormed before control ends passed =>
      obtain ⟨log, journal', spaced⟩ := hears.spacedResponses
        (c.nextEvent.ack.afterReceive pdu.header).response moves room passed before
      rw [Radio.configure_journal, Radio.idle_journal, journal', List.append_assoc,
        List.append_assoc]
      exact ⟨_, rfl, .append spaced (.of_silent rfl)⟩

theorem Walk.spacedResponses {link link' : Link} {w w' : World P} {turns : List Turn}
    (walk : Walk link w turns link' w') (prepares : link.config.prepare = .ok link.prepared)
    (moves : 0 < w.radio.clock.step.toNat)
    (room : link.config.tickRate.interFrameSpace.toNat + 4 * w.radio.clock.step.toNat <
      4294967296) :
    ∃ log, w'.radio.journal.toList = w.radio.journal.toList ++ log ∧
      SpacedResponses link.prepared.advertisement link.config.tickRate.interFrameSpace.toNat
        w.radio.clock.step.toNat log := by
  induction walk with
  | nil link w => exact ⟨[], by simp, .of_silent rfl⟩
  | @cons link link₁ link' w w₁ w' event wait turns step rest ih =>
    obtain ⟨config, prepared, -⟩ := step.setup_eq
    have clock : w₁.radio.clock.step = w.radio.clock.step := step.clock_step
    obtain ⟨log, journal, spaced⟩ := step.spacedResponses prepares moves room
    rw [config, prepared, clock] at ih
    obtain ⟨log', journal', spaced'⟩ := ih prepares moves room
    rw [journal', journal, List.append_assoc]
    exact ⟨log ++ log', rfl, spaced.append spaced'⟩

/-- The inter-frame space is kept, and hardly more is waited, by all that a link sends in answer to a
frame: the scan response, the first acknowledgment of a connection and every other. All else that it
sends is its advertisement. -/
theorem inter_frame_space_kept {link link' : Link} {w w' : World P} {turns : List Turn}
    (reached : Reachable link w) (walk : Walk link w turns link' w')
    (moves : 1 ≤ w.radio.clock.step.toNat)
    (room : link.config.tickRate.interFrameSpace.toNat + 4 * w.radio.clock.step.toNat <
      4294967296) :
    ∃ log, w'.radio.journal.toList = w.radio.journal.toList ++ log ∧
      SpacedResponses link.prepared.advertisement link.config.tickRate.interFrameSpace.toNat
        w.radio.clock.step.toNat log :=
  walk.spacedResponses reached.prepares moves room

/-- A scan request, a request for a connection, and two frames on that: three responses. -/
theorem inter_frame_space_kept_of_each_kind :
    ∃ (link link' : Link) (w w' : World ScriptedPeer) (turns : List Turn) (log : List RadioEvent),
      Reachable link w ∧ Walk link w turns link' w' ∧
      turns.map (fun turn => (turn.wait, turn.event)) =
        [(0, .scanResponseSent 37 (.ofAir [0xb0, 0xec, 0xa7, 0x55, 0xd4, 0x6b])),
          (499900, .connectRequested (.ofAir [0xb0, 0xec, 0xa7, 0x55, 0xd4, 0x6b]) 0x50654b3a 7),
          (0, .connected 0x50654b3a 7), (17300, .dataReceived 14 .dataContinue 0 false)] ∧
      w'.radio.journal.toList = w.radio.journal.toList ++ log ∧
      (log.filterMap RadioEvent.sent?).countP (!isAdvertisement ·.2) = 3 ∧
      SpacedResponses link.prepared.advertisement 150 1 log := by
  have passes : testFrom { scanResponseData := [.flags 0x06] } {} ⟨0, 1⟩
      { advertising := some ⟨20, [0x03, 0x0c, 0xb0, 0xec, 0xa7, 0x55, 0xd4, 0x6b, 0x66, 0x55, 0x44,
          0x33, 0x22, 0x11]⟩ :: (connectingPeer []).advertising
        data := [some ⟨33, [0x01, 0]⟩, some ⟨7, [0x0d, 0]⟩] : ScriptedPeer }
      (fun link w => link.config.tickRate.interFrameSpace = 150 && (w.radio.clock.step = 1 &&
        testTurns 400 (fun _ w' => ((w'.radio.journal.toList.drop w.radio.journal.toList.length
            ).filterMap RadioEvent.sent?).countP (!isAdvertisement ·.2) = 3)
          [(0, .scanResponseSent 37 (.ofAir [0xb0, 0xec, 0xa7, 0x55, 0xd4, 0x6b])),
            (499900, .connectRequested (.ofAir [0xb0, 0xec, 0xa7, 0x55, 0xd4, 0x6b]) 0x50654b3a 7),
            (0, .connected 0x50654b3a 7), (17300, .dataReceived 14 .dataContinue 0 false)]
          link w)) = true := by
    decide +kernel
  obtain ⟨link, w, started, passes⟩ := start_of_testFrom passes
  simp only [Bool.and_eq_true, decide_eq_true_eq] at passes
  obtain ⟨space, step, passes⟩ := passes
  obtain ⟨turns, link', w', walk, events, passes⟩ := Walk.of_testTurns passes
  rw [decide_eq_true_eq] at passes
  obtain ⟨log, journal, spaced⟩ := inter_frame_space_kept (.start started) walk
    (by rw [step]; decide) (by rw [space, step]; decide)
  rw [space, step] at spaced
  rw [journal, List.drop_left] at passes
  exact ⟨link, link', w, w', turns, log, .start started, walk, events, journal, passes, spaced⟩

end Link

end BlePeripheral

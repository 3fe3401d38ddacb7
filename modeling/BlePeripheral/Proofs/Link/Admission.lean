import BlePeripheral.Proofs.Advertising.Prepared
import BlePeripheral.Proofs.Channel.Hops
import BlePeripheral.Proofs.Link.Run

/-! Which frames an advertising link reacts to, byte for byte: a connection request to it opens
a connection, a scan request to it is answered, and nothing else has an effect. -/

namespace BlePeripheral

theorem AdvertisingMode.isConnectable_iff {mode : AdvertisingMode} :
    mode.pduType.isConnectable = true ↔ mode = .connectable := by
  cases mode <;> decide

theorem AdvertisingMode.isScannable_iff {mode : AdvertisingMode} :
    mode.pduType.isScannable = true ↔ mode = .connectable ∨ mode = .scannable := by
  cases mode <;> decide

namespace LinkConfig

/-- The frame is a request to the device for a connection, which it takes. -/
def Admits (config : LinkConfig) (b : Bytes) : Prop :=
  config.mode = .connectable ∧ IsRequest 5 34 config.address b ∧
    2 ≤ (List.range 37).countP (Bytes.natAt b 30 5).testBit

/-- The frame is a request to the device for its scan response, which it has. -/
def AnswersScan (config : LinkConfig) (b : Bytes) : Prop :=
  (config.mode = .connectable ∨ config.mode = .scannable) ∧ config.scanResponseData ≠ [] ∧
    IsRequest 3 12 config.address b

instance (config : LinkConfig) (b : Bytes) : Decidable (config.Admits b) :=
  inferInstanceAs (Decidable (_ ∧ _ ∧ _))

instance (config : LinkConfig) (b : Bytes) : Decidable (config.AnswersScan b) :=
  inferInstanceAs (Decidable (_ ∧ _ ∧ _))

end LinkConfig

theorem UsedChannels.exists_ofMap {map : ChannelMap} :
    (∃ used, ofMap map = .ok used) ↔ 2 ≤ map.count := by
  by_cases several : 2 ≤ map.count
  · simp [ofMap_of_le several, several]
  · simp [ofMap_of_lt (Nat.lt_of_not_le several), several]

theorem ConnectionContext.exists_ofRequest {r : ConnectRequest} :
    (∃ context, ofRequest r = .ok context) ↔ 2 ≤ r.channelMap.count := by
  rw [← UsedChannels.exists_ofMap]
  unfold ofRequest
  cases UsedChannels.ofMap r.channelMap with
  | error e => simp [bind, Except.bind]
  | ok used => simp [bind, Except.bind, pure, Except.pure]

namespace Link

theorem exists_requested_iff {link : Link} {b : Bytes} :
    (∃ context, link.requested? b = some context) ↔ link.config.Admits b := by
  unfold LinkConfig.Admits
  rw [isRequest_connectReq_iff]
  simp only [requested?_eq_some, ← AdvertisingMode.isConnectable_iff,
    ← ConnectionContext.exists_ofRequest]
  constructor
  · rintro ⟨context, header, request, read, advertiser, connectable, made⟩
    exact ⟨connectable, header, request, read, advertiser, context, made⟩
  · rintro ⟨connectable, header, request, read, advertiser, context, made⟩
    exact ⟨context, header, request, read, advertiser, connectable, made⟩

theorem exists_scanResponse_iff {link : Link} {b : Bytes}
    (prepares : link.config.prepare = .ok link.prepared) :
    (∃ response, link.scanResponse? b = some response) ↔ link.config.AnswersScan b := by
  unfold LinkConfig.AnswersScan
  rw [isRequest_scanReq_iff, ← LinkConfig.isSome_scanResponse prepares, Option.isSome_iff_exists]
  simp only [scanResponse?_eq_some, ← AdvertisingMode.isScannable_iff]
  constructor
  · rintro ⟨response, header, request, read, advertiser, scannable, prepared⟩
    exact ⟨scannable, ⟨response, prepared⟩, header, request, read, advertiser⟩
  · rintro ⟨scannable, ⟨response, prepared⟩, header, request, read, advertiser⟩
    exact ⟨response, header, request, read, advertiser, scannable, prepared⟩

/-- What an advertising event makes of the frame that comes back, if one does: where it leads,
what is sent beside the advertisement, and what the radio does. -/
structure Admission (link link' : Link) (heard : Option RxFrame) (answer : Option Bytes)
    (log : List RadioEvent) : Prop where
  frames : log.filterMap RadioEvent.frame? = heard.toList
  opens : link'.state.phase = .connectRequest ↔
    ∃ frame, heard = some frame ∧ link.config.Admits frame.bytes
  stays : link'.state.phase ≠ .connectRequest → link'.state = .advertising
  answers : answer.isSome = true ↔
    ∃ frame, heard = some frame ∧ link.config.AnswersScan frame.bytes
  prepares : link.config.prepare = .ok link.prepared
  prepared : ∀ response, answer = some response → link.prepared.scanResponse = some response
  sent : log.filterMap RadioEvent.sent? =
    (link.prepared.advertisement :: answer.toList).map (advChannel link.advIndex, ·)
  listens : log.filterMap RadioEvent.listenedOn? =
    if link.config.mode = .nonConnectable then [] else [advChannel link.advIndex]
  tuned : ∀ accessAddress crcInit phy, .configured accessAddress crcInit phy ∉ log

namespace AdvertisingLog

variable {link : Link} {heard : Option RxFrame} {log : List RadioEvent}

theorem sent_eq (h : link.AdvertisingLog heard log) :
    log.filterMap RadioEvent.sent? = (link.prepared.advertisement ::
      (heard.bind fun frame => link.scanResponse? frame.bytes).toList).map
        (advChannel link.advIndex, ·) := by
  cases h with
  | broadcast => rfl
  | silence => rfl
  | passed sent opened listens noScan => rw [Option.bind_some, noScan]; rfl
  | answered sent opened answered listens asked => rw [Option.bind_some, asked]; rfl

theorem listens_eq (h : link.AdvertisingLog heard log) :
    log.filterMap RadioEvent.listenedOn? =
      if link.config.mode = .nonConnectable then [] else [advChannel link.advIndex] := by
  cases h with
  | broadcast sent deaf => rw [if_pos deaf]; rfl
  | silence sent opened closed listens => rw [if_neg listens]; rfl
  | passed sent opened listens => rw [if_neg listens]; rfl
  | answered sent opened answered listens => rw [if_neg listens]; rfl

theorem not_configured (h : link.AdvertisingLog heard log) (accessAddress crcInit : UInt32)
    (phy : Phy) : .configured accessAddress crcInit phy ∉ log := by
  cases h <;> simp

end AdvertisingLog

theorem phase_withRequested {link : Link} (advertising : link.state = .advertising)
    (request : Option ConnectionContext) :
    (link.withRequested request).state.phase = .connectRequest ↔ request.isSome = true := by
  cases request with
  | none => simp [withRequested, advertising, LinkState.phase]
  | some context => simp [withRequested, withConnection, LinkState.phase]

theorem exists_heard_iff {α : Type} {heard : Option RxFrame} {choose : Bytes → Option α}
    {chosen : Bytes → Prop} (h : ∀ b, (∃ a, choose b = some a) ↔ chosen b) :
    (heard.bind fun frame => choose frame.bytes).isSome = true ↔
      ∃ frame, heard = some frame ∧ chosen frame.bytes := by
  cases heard with
  | none => simp
  | some frame => simp [Option.isSome_iff_exists, h]

variable {P : Type} [Peer P]

/-- An advertising link takes a frame for a connection request, or answers it by the prepared
scan response, if and only if its bytes are such a request to the device and the mode and the
data allow it. In every other case, and without a frame, it goes on advertising and has sent
nothing but the advertisement. -/
theorem admission_exact {link link' : Link} {w w' : World P} {event : LinkEvent}
    (reached : Reachable link w) (advertising : link.state = .advertising)
    (step : link.Step w event link' w') :
    ∃ heard answer log, w'.radio.journal.toList = w.radio.journal.toList ++ log ∧
      link.Admission link' heard answer log := by
  obtain ⟨n, heard, advertises⟩ := step.of_advertising advertising
  obtain ⟨log, journal, logged⟩ := advertises.journal_eq
  have prepares := reached.prepares
  refine ⟨heard, heard.bind fun frame => link.scanResponse? frame.bytes, log, journal, ?_⟩
  constructor
  case frames => exact logged.frames_eq
  case opens =>
    rw [advertises.link_eq, phase_withRequested (by exact advertising)]
    exact exists_heard_iff fun b => link.exists_requested_iff
  case stays =>
    rw [advertises.link_eq]
    cases heard.bind fun frame => link.requested? frame.bytes with
    | none => exact fun _ => advertising
    | some context => exact fun no => absurd rfl no
  case answers => exact exists_heard_iff fun b => exists_scanResponse_iff prepares
  case prepares => exact prepares
  case prepared =>
    intro response asked
    obtain ⟨frame, -, asked⟩ := Option.bind_eq_some_iff.mp asked
    obtain ⟨-, -, -, -, -, prepared⟩ := scanResponse?_eq_some.mp asked
    exact prepared
  case sent => exact logged.sent_eq
  case listens => exact logged.listens_eq
  case tuned => exact logged.not_configured

/-- A connection request to the device arrives after the first advertisement. -/
theorem admission_exact_of_request :
    ∃ (link link' : Link) (w w' : World ScriptedPeer) (event : LinkEvent), Reachable link w ∧
      link.state = .advertising ∧ link.Step w event link' w' ∧
      link'.state.phase = .connectRequest ∧
      ∃ frame answer log, w'.radio.journal.toList = w.radio.journal.toList ++ log ∧
        link.Admission link' (some frame) answer log ∧ link.config.Admits frame.bytes := by
  have passes : testStart {} [] 0 (fun link w => link.state = .advertising &&
      LinkM.test link.step { w with polls := 10 } fun outcome _ =>
        outcome.2.state.phase = .connectRequest) = true := by
    decide +kernel
  obtain ⟨link, w, started, passes⟩ := start_of_test passes
  rw [Bool.and_eq_true, decide_eq_true_eq] at passes
  obtain ⟨event, link', w', step, opened⟩ := Step.of_test passes.2
  have opened := of_decide_eq_true opened
  obtain ⟨heard, answer, log, journal, admission⟩ :=
    admission_exact (.start started) passes.1 step
  obtain ⟨frame, rfl, admits⟩ := admission.opens.mp opened
  exact ⟨link, link', w, w', event, .start started, passes.1, step, opened, frame, answer, log,
    journal, admission, admits⟩

end Link

end BlePeripheral

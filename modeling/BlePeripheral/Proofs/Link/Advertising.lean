import BlePeripheral.Link.Basic
import BlePeripheral.Proofs.Air.Actions

/-! What an advertising event has done when it returns. The advertisement goes out, and a frame
that comes back opens a connection, is answered by the scan response, or comes to nothing:
`Link.Advertises` has one constructor for each way the event can end. -/

namespace BlePeripheral

def LinkEvent.isRefusal : LinkEvent → Bool
  | connectionRejected .. | frameDiscarded _ | ignored _ => true
  | _ => false

namespace Link

open LinkM

/-- The connection that a frame received after an advertisement opens. -/
def requested? (link : Link) (bytes : Bytes) : Option ConnectionContext :=
  match AdvPdu.ofBytes bytes with
  | .ok (.connectRequest _ request) =>
    if request.advertiser = link.config.address ∧ link.config.mode.pduType.isConnectable = true then
      (ConnectionContext.ofRequest request).toOption
    else none
  | _ => none

def scanResponse? (link : Link) (bytes : Bytes) : Option Bytes :=
  match AdvPdu.ofBytes bytes with
  | .ok (.scanRequest _ request) =>
    if request.advertiser = link.config.address ∧ link.config.mode.pduType.isScannable = true then
      link.prepared.scanResponse
    else none
  | _ => none

def withConnection (link : Link) (context : ConnectionContext) : Link :=
  { link with state := .connectRequest (Connection.ofContext context link.config.tickRate) }

variable {P : Type} [Peer P]

/-- What comes of a frame: the event, the link and the radio afterwards. -/
inductive Answers (link : Link) (channel : UInt8) (frame : RxFrame) (radio : Radio P) :
    LinkEvent → Link → Radio P → Prop
  | connection {context : ConnectionContext}
      (asked : link.requested? frame.bytes = some context) :
      Answers link channel frame radio
        (.connectRequested context.initiator context.accessAddress
          (Connection.ofContext context link.config.tickRate).channel)
        (link.withConnection context) radio
  /-- The response goes out an inter-frame space after the request. -/
  | scanResponse {response : Bytes} (scanner : DeviceAddress) (n : Nat)
      (asked : link.scanResponse? frame.bytes = some response)
      (passed : radio.clock.elapsedAt frame.timestamp link.config.tickRate.interFrameSpace n = true)
      (before : ∀ i < n,
        radio.clock.elapsedAt frame.timestamp link.config.tickRate.interFrameSpace i = false) :
      Answers link channel frame radio (.scanResponseSent channel scanner) link
        ((radio.afterReads (n + 1)).transmit channel response)
  | nothing (event : LinkEvent) (noRequest : link.requested? frame.bytes = none)
      (noScan : link.scanResponse? frame.bytes = none) (refused : event.isRefusal = true) :
      Answers link channel frame radio event link radio

theorem answerScan_eq_ok {link link' : Link} {scanner : DeviceAddress} {channel : UInt8}
    {frame : RxFrame} {w w' : World P} {event : LinkEvent}
    (noRequest : link.requested? frame.bytes = none)
    (scan : link.scanResponse? frame.bytes =
      if link.config.mode.pduType.isScannable = true then link.prepared.scanResponse else none)
    (h : link.answerScan scanner channel frame.timestamp w = .ok (event, link') w') :
    link.Answers channel frame w.radio event link' w'.radio := by
  unfold answerScan at h
  cases prepared : link.prepared.scanResponse with
  | none =>
    simp only [prepared] at h
    obtain ⟨same, rfl⟩ := pure_eq_ok.mp h
    cases same
    exact .nothing _ noRequest (by rw [scan, prepared, ite_self]) rfl
  | some response =>
    simp only [prepared] at h
    by_cases scannable : link.config.mode.pduType.isScannable = true
    · rw [if_pos scannable] at h scan
      obtain ⟨_, u, waited, h⟩ := bind_eq_ok.mp h
      obtain ⟨n, rest, rfl, passed, before⟩ := waitUntil_eq_ok waited
      obtain ⟨_, u, sent, h⟩ := bind_eq_ok.mp h
      rw [send_apply] at sent
      cases sent
      obtain ⟨_, u, noted, h⟩ := bind_eq_ok.mp h
      rw [note_apply] at noted
      cases noted
      obtain ⟨same, rfl⟩ := pure_eq_ok.mp h
      cases same
      exact .scanResponse scanner n (scan.trans prepared) passed before
    · rw [if_neg scannable] at h scan
      obtain ⟨same, rfl⟩ := pure_eq_ok.mp h
      cases same
      exact .nothing _ noRequest scan rfl

theorem acceptConnect_eq_ok {link link' : Link} {request : ConnectRequest} {channel : UInt8}
    {frame : RxFrame} {w w' : World P} {event : LinkEvent}
    (asked : link.requested? frame.bytes =
      if link.config.mode.pduType.isConnectable = true then
        (ConnectionContext.ofRequest request).toOption
      else none)
    (noScan : link.scanResponse? frame.bytes = none)
    (h : link.acceptConnect request w = .ok (event, link') w') :
    link.Answers channel frame w.radio event link' w'.radio := by
  unfold acceptConnect at h
  by_cases connectable : link.config.mode.pduType.isConnectable = true
  · rw [if_pos connectable] at h asked
    cases read : ConnectionContext.ofRequest request with
    | error error =>
      simp only [read] at h
      obtain ⟨_, u, noted, h⟩ := bind_eq_ok.mp h
      rw [note_apply] at noted
      cases noted
      obtain ⟨same, rfl⟩ := pure_eq_ok.mp h
      cases same
      exact .nothing _ (by rw [asked, read]; rfl) noScan rfl
    | ok context =>
      simp only [read] at h
      obtain ⟨_, u, noted, h⟩ := bind_eq_ok.mp h
      cases noted
      obtain ⟨_, u, noted, h⟩ := bind_eq_ok.mp h
      rw [note_apply] at noted
      cases noted
      obtain ⟨same, rfl⟩ := pure_eq_ok.mp h
      cases same
      obtain ⟨-, made⟩ := ConnectionContext.ofRequest_eq_ok read
      have initiator : context.initiator = request.initiator := by rw [made]
      rw [← initiator]
      exact .connection (by rw [asked, read]; rfl)
  · rw [if_neg connectable] at h asked
    obtain ⟨same, rfl⟩ := pure_eq_ok.mp h
    cases same
    exact .nothing _ asked noScan rfl

theorem answer_eq_ok {link link' : Link} {channel : UInt8} {frame : RxFrame} {w w' : World P}
    {event : LinkEvent} (h : link.answer channel frame w = .ok (event, link') w') :
    link.Answers channel frame w.radio event link' w'.radio := by
  have asked : link.requested? frame.bytes = match AdvPdu.ofBytes frame.bytes with
    | .ok (.connectRequest _ request) =>
      if request.advertiser = link.config.address ∧
          link.config.mode.pduType.isConnectable = true then
        (ConnectionContext.ofRequest request).toOption
      else none
    | _ => none := rfl
  have scan : link.scanResponse? frame.bytes = match AdvPdu.ofBytes frame.bytes with
    | .ok (.scanRequest _ request) =>
      if request.advertiser = link.config.address ∧ link.config.mode.pduType.isScannable = true then
        link.prepared.scanResponse
      else none
    | _ => none := rfl
  unfold answer at h
  cases read : AdvPdu.ofBytes frame.bytes with
  | error defect =>
    simp only [read] at h asked scan
    obtain ⟨_, u, noted, h⟩ := bind_eq_ok.mp h
    rw [note_apply] at noted
    cases noted
    obtain ⟨same, rfl⟩ := pure_eq_ok.mp h
    cases same
    exact .nothing _ asked scan rfl
  | ok pdu =>
    cases pdu with
    | scanRequest header request =>
      simp only [read] at h asked scan
      by_cases ours : request.advertiser = link.config.address
      · simp only [ours, if_true, true_and] at h scan
        exact answerScan_eq_ok asked scan h
      · simp only [ours, if_false, false_and] at h scan
        obtain ⟨same, rfl⟩ := pure_eq_ok.mp h
        cases same
        exact .nothing _ asked scan rfl
    | connectRequest header request =>
      simp only [read] at h asked scan
      by_cases ours : request.advertiser = link.config.address
      · simp only [ours, if_true, true_and] at h asked
        exact acceptConnect_eq_ok asked scan h
      · simp only [ours, if_false, false_and] at h asked
        obtain ⟨same, rfl⟩ := pure_eq_ok.mp h
        cases same
        exact .nothing _ asked scan rfl
    | advertisement header payload =>
      simp only [read] at h asked scan
      obtain ⟨same, rfl⟩ := pure_eq_ok.mp h
      cases same
      exact .nothing _ asked scan rfl

omit [Peer P] in
theorem requested?_eq_some {link : Link} {bytes : Bytes} {context : ConnectionContext} :
    link.requested? bytes = some context ↔ ∃ header request,
      AdvPdu.ofBytes bytes = .ok (.connectRequest header request) ∧
        request.advertiser = link.config.address ∧
        link.config.mode.pduType.isConnectable = true ∧
        ConnectionContext.ofRequest request = .ok context := by
  unfold requested?
  cases read : AdvPdu.ofBytes bytes with
  | error defect => simp
  | ok pdu =>
    cases pdu with
    | connectRequest header request =>
      simp only [Except.ok.injEq, AdvPdu.connectRequest.injEq]
      cases made : ConnectionContext.ofRequest request <;> simp [Except.toOption, made, and_assoc]
    | scanRequest header request => simp
    | advertisement header payload => simp

omit [Peer P] in
theorem scanResponse?_eq_some {link : Link} {bytes response : Bytes} :
    link.scanResponse? bytes = some response ↔ ∃ header request,
      AdvPdu.ofBytes bytes = .ok (.scanRequest header request) ∧
        request.advertiser = link.config.address ∧
        link.config.mode.pduType.isScannable = true ∧
        link.prepared.scanResponse = some response := by
  unfold scanResponse?
  cases read : AdvPdu.ofBytes bytes with
  | error defect => simp
  | ok pdu =>
    cases pdu with
    | scanRequest header request => simp [and_assoc]
    | connectRequest header request => simp
    | advertisement header payload => simp

omit [Peer P] in
theorem scanResponse?_of_requested {link : Link} {bytes : Bytes} {context : ConnectionContext}
    (asked : link.requested? bytes = some context) : link.scanResponse? bytes = none := by
  obtain ⟨_, _, read, -⟩ := requested?_eq_some.mp asked
  simp only [scanResponse?, read]

omit [Peer P] in
theorem requested?_of_scanResponse {link : Link} {bytes response : Bytes}
    (asked : link.scanResponse? bytes = some response) : link.requested? bytes = none := by
  obtain ⟨_, _, read, -⟩ := scanResponse?_eq_some.mp asked
  simp only [requested?, read]

def withRequested (link : Link) : Option ConnectionContext → Link
  | none => link
  | some context => link.withConnection context

theorem Answers.link_eq {link link' : Link} {channel : UInt8} {frame : RxFrame}
    {radio radio' : Radio P} {event : LinkEvent}
    (h : link.Answers channel frame radio event link' radio') :
    link' = link.withRequested (link.requested? frame.bytes) := by
  cases h with
  | connection asked => rw [asked, withRequested]
  | scanResponse scanner n asked => rw [requested?_of_scanResponse asked, withRequested]
  | nothing event noRequest => rw [noRequest, withRequested]

def advertisement (link : Link) (radio : Radio P) : Radio P :=
  (radio.afterReads 1).transmit (advChannel link.advIndex) link.prepared.advertisement

def listening (link : Link) (radio : Radio P) : Radio P :=
  ((link.advertisement radio).receive (advChannel link.advIndex)).2.afterReads 1

theorem awaited_listening (link : Link) (radio : Radio P) :
    (link.listening radio).awaited =
      ((link.advertisement radio).offer (advChannel link.advIndex)).1.delivery.map
        ((link.advertisement radio).clock.now, ·) := by
  rw [listening, Radio.awaited_afterReads, Radio.awaited_receive]

/-- An advertising event from the moment the interval has passed: the frame that came back, if
any, the event, the link and the radio afterwards. -/
inductive Advertises (link : Link) (radio : Radio P) :
    Option RxFrame → LinkEvent → Link → Radio P → Prop
  | broadcast (deaf : link.config.mode = .nonConnectable) :
      Advertises link radio none (.advertised (advChannel link.advIndex))
        (link.advertisedAt radio.clock.now) (link.advertisement radio)
  | silence {radio' : Radio P} (listens : link.config.mode ≠ .nonConnectable)
      (window : (link.listening radio).Heard (link.advertisement radio).clock.now
        (link.config.tickRate.ticksForUs link.config.advRxWindowUs) none radio') :
      Advertises link radio none (.advertised (advChannel link.advIndex))
        (link.advertisedAt radio.clock.now) radio'
  | answered {frame : RxFrame} {radio' radio'' : Radio P} {event : LinkEvent} {link' : Link}
      (listens : link.config.mode ≠ .nonConnectable)
      (window : (link.listening radio).Heard (link.advertisement radio).clock.now
        (link.config.tickRate.ticksForUs link.config.advRxWindowUs) (some frame) radio')
      (answers : (link.advertisedAt radio.clock.now).Answers (advChannel link.advIndex) frame
        radio' event link' radio'') :
      Advertises link radio (some frame) event link' radio''

theorem Advertises.link_eq {link link' : Link} {radio radio' : Radio P} {heard : Option RxFrame}
    {event : LinkEvent} (h : link.Advertises radio heard event link' radio') :
    link' = (link.advertisedAt radio.clock.now).withRequested
      (heard.bind fun frame => link.requested? frame.bytes) := by
  cases h with
  | broadcast => rfl
  | silence => rfl
  | answered listens window answers => exact answers.link_eq

theorem Advertises.event_of_requested {link link' : Link} {radio radio' : Radio P} {frame : RxFrame}
    {event : LinkEvent} {context : ConnectionContext}
    (h : link.Advertises radio (some frame) event link' radio')
    (asked : link.requested? frame.bytes = some context) :
    event = .connectRequested context.initiator context.accessAddress
      (Connection.ofContext context link.config.tickRate).channel := by
  cases h with
  | answered listens window answers =>
    cases answers with
    | connection asked' =>
      cases asked.symm.trans asked'
      rfl
    | scanResponse scanner n scan => cases asked.symm.trans (requested?_of_scanResponse scan)
    | nothing event noRequest => cases asked.symm.trans noRequest

inductive AdvertisingLog (link : Link) : Option RxFrame → List RadioEvent → Prop
  | broadcast (sent : Nat) (deaf : link.config.mode = .nonConnectable) :
      AdvertisingLog link none
        [.transmitted (advChannel link.advIndex) link.prepared.advertisement sent]
  | silence (sent opened closed : Nat) (listens : link.config.mode ≠ .nonConnectable) :
      AdvertisingLog link none
        [.transmitted (advChannel link.advIndex) link.prepared.advertisement sent,
          .listened (advChannel link.advIndex) opened, .idled closed]
  | passed {frame : RxFrame} (sent opened : Nat) (listens : link.config.mode ≠ .nonConnectable)
      (noScan : link.scanResponse? frame.bytes = none) :
      AdvertisingLog link (some frame)
        [.transmitted (advChannel link.advIndex) link.prepared.advertisement sent,
          .listened (advChannel link.advIndex) opened, .delivered frame]
  | answered {frame : RxFrame} {response : Bytes} (sent opened answered : Nat)
      (listens : link.config.mode ≠ .nonConnectable)
      (asked : link.scanResponse? frame.bytes = some response) :
      AdvertisingLog link (some frame)
        [.transmitted (advChannel link.advIndex) link.prepared.advertisement sent,
          .listened (advChannel link.advIndex) opened, .delivered frame,
          .transmitted (advChannel link.advIndex) response answered]

theorem AdvertisingLog.frames_eq {link : Link} {heard : Option RxFrame} {log : List RadioEvent}
    (h : link.AdvertisingLog heard log) : log.filterMap RadioEvent.frame? = heard.toList := by
  cases h <;> rfl

theorem Advertises.log_eq {link link' : Link} {radio radio' : Radio P} {heard : Option RxFrame}
    {event : LinkEvent} (h : link.Advertises radio heard event link' radio') :
    ∃ later, radio'.journal.toList = (link.advertisement radio).journal.toList ++ later ∧
      link.AdvertisingLog heard (.transmitted (advChannel link.advIndex) link.prepared.advertisement
        (radio.afterReads 1).clock.time :: later) := by
  have listening : (link.listening radio).journal.toList =
      (link.advertisement radio).journal.toList ++
        [.listened (advChannel link.advIndex) (link.advertisement radio).clock.time] := by
    simp [Link.listening]
  cases h with
  | broadcast deaf => exact ⟨[], (List.append_nil _).symm, .broadcast _ deaf⟩
  | silence listens window =>
    obtain ⟨closed, journal⟩ := window.journal_none
    rw [listening, List.append_assoc] at journal
    exact ⟨_, journal, .silence _ _ closed listens⟩
  | @answered frame after _ _ _ listens window answers =>
    have journal := window.journal_some
    rw [listening, List.append_assoc] at journal
    cases answers with
    | connection asked =>
      exact ⟨_, journal, .passed _ _ listens (scanResponse?_of_requested asked)⟩
    | @scanResponse response scanner n asked =>
      have sent := (after.afterReads (n + 1)).transmit_journal (advChannel link.advIndex) response
      rw [Radio.afterReads_journal, journal, List.append_assoc] at sent
      exact ⟨_, sent, .answered _ _ _ listens asked⟩
    | nothing event noRequest noScan => exact ⟨_, journal, .passed _ _ listens noScan⟩

theorem Advertises.journal_eq {link link' : Link} {radio radio' : Radio P} {heard : Option RxFrame}
    {event : LinkEvent} (h : link.Advertises radio heard event link' radio') :
    ∃ log, radio'.journal.toList = radio.journal.toList ++ log ∧ link.AdvertisingLog heard log := by
  obtain ⟨later, journal, logged⟩ := h.log_eq
  refine ⟨_, ?_, logged⟩
  rw [journal, advertisement, Radio.transmit_journal, List.append_assoc]
  rfl

def Reports (link : Link) (heard : Option RxFrame) (event : LinkEvent) (link' : Link) : Prop :=
  ∀ frame, heard = some frame → ∃ (now : Tick) (u v : World P),
    (link.advertisedAt now).answer (advChannel link.advIndex) frame u = .ok (event, link') v

theorem advertiseNow_eq_ok {link link' : Link} {w w' : World P} {event : LinkEvent}
    (h : link.advertiseNow w = .ok (event, link') w') :
    ∃ heard, link.Advertises w.radio heard event link' w'.radio ∧
      link.Reports (P := P) heard event link' := by
  unfold advertiseNow at h
  obtain ⟨now, u, read, h⟩ := bind_eq_ok.mp h
  obtain ⟨rest, rfl, rfl⟩ := readClock_eq_ok read
  obtain ⟨_, u, sent, h⟩ := bind_eq_ok.mp h
  rw [send_apply] at sent
  cases sent
  by_cases deaf : link.config.mode = .nonConnectable
  · rw [if_pos deaf] at h
    obtain ⟨same, rfl⟩ := pure_eq_ok.mp h
    cases same
    exact ⟨none, .broadcast deaf, nofun⟩
  · rw [if_neg deaf] at h
    obtain ⟨_, u, received, h⟩ := bind_eq_ok.mp h
    rw [receive_apply] at received
    cases received
    obtain ⟨opened, u, read, h⟩ := bind_eq_ok.mp h
    obtain ⟨rest', rfl, rfl⟩ := readClock_eq_ok read
    obtain ⟨heard, u, listened, h⟩ := bind_eq_ok.mp h
    obtain ⟨radio, rest'', rfl, window⟩ := listen_eq_ok listened
    cases heard with
    | none =>
      obtain ⟨same, rfl⟩ := pure_eq_ok.mp h
      cases same
      exact ⟨none, .silence deaf window, nofun⟩
    | some frame =>
      obtain ⟨_, u, noted, h⟩ := bind_eq_ok.mp h
      rw [note_apply] at noted
      cases noted
      refine ⟨some frame, .answered deaf window (answer_eq_ok h), ?_⟩
      rintro _ ⟨⟩
      exact ⟨_, _, _, h⟩

/-- If there has been an advertisement before, one of the first `n` readings finds the advertising
interval passed since then. -/
def Waited (link : Link) (clock : Clock) (n : Nat) : Prop :=
  ∀ last, link.lastAdv = some last → ∃ i < n,
    clock.elapsedAt last (link.config.tickRate.ticksForMs link.config.advIntervalMs) i = true

/-- An advertising event that returns has waited for the interval to pass since the one before,
if there was one, and has then advertised. -/
theorem advertise_eq_ok {link link' : Link} {w w' : World P} {event : LinkEvent}
    (h : link.advertise w = .ok (event, link') w') :
    ∃ n heard, link.Waited w.radio.clock n ∧
      link.Advertises (w.radio.afterReads n) heard event link' w'.radio ∧
      link.Reports (P := P) heard event link' := by
  unfold advertise at h
  cases last : link.lastAdv with
  | none =>
    simp only [last] at h
    obtain ⟨heard, advertises, reports⟩ := advertiseNow_eq_ok h
    refine ⟨0, heard, ?_, by rwa [Radio.afterReads_zero], reports⟩
    intro last' some
    rw [last] at some
    cases some
  | some last' =>
    simp only [last] at h
    obtain ⟨_, u, waited, h⟩ := bind_eq_ok.mp h
    obtain ⟨n, rest, rfl, passed, -⟩ := waitUntil_eq_ok waited
    obtain ⟨heard, advertises, reports⟩ := advertiseNow_eq_ok h
    refine ⟨n + 1, heard, ?_, advertises, reports⟩
    intro _ same
    cases last.symm.trans same
    exact ⟨n, n.lt_succ_self, passed⟩

theorem answer_event_of_scanRequest {link link' : Link} {header : AdvHeader} {request : ScanRequest}
    {channel : UInt8} {frame : RxFrame} {w w' : World P} {event : LinkEvent}
    (read : AdvPdu.ofBytes frame.bytes = .ok (.scanRequest header request))
    (ours : request.advertiser = link.config.address)
    (scannable : link.config.mode.pduType.isScannable = true)
    (h : link.answer channel frame w = .ok (event, link') w') :
    event = if link.prepared.scanResponse.isSome = true then
      .scanResponseSent channel request.initiator else .ignored (some .scanReq) := by
  unfold answer at h
  simp only [read, if_pos ours] at h
  unfold answerScan at h
  cases prepared : link.prepared.scanResponse with
  | none =>
    simp only [prepared] at h
    obtain ⟨same, -⟩ := pure_eq_ok.mp h
    cases same
    rfl
  | some response =>
    simp only [prepared, if_pos scannable] at h
    iterate 3 obtain ⟨_, _, -, h⟩ := bind_eq_ok.mp h
    obtain ⟨same, -⟩ := pure_eq_ok.mp h
    cases same
    rfl

end Link

end BlePeripheral

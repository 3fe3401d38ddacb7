import BlePeripheral.Air.World
import BlePeripheral.Proofs.Air.Actions

/-! Two worlds whose tick counters are apart by a fixed number of ticks. Whatever only compares
ticks through the time elapsed between them does the same in both, also where one of the
counters wraps and the other does not. -/

namespace BlePeripheral

def RxFrame.shift (k : Tick) (frame : RxFrame) : RxFrame :=
  { frame with timestamp := frame.timestamp + k }

def Listening.shift (k : Tick) (listening : Listening) : Listening :=
  { listening with opened := listening.opened + k }

def RadioEvent.shown (k : Tick) : RadioEvent → RadioEvent
  | configured accessAddress crcInit phy => configured accessAddress crcInit phy
  | transmitted channel pdu time => transmitted channel pdu (Time.tick time + k).toNat
  | listened channel time => listened channel (Time.tick time + k).toNat
  | idled time => idled (Time.tick time + k).toNat
  | delivered frame => delivered (frame.shift k)

/-- A peer to which it makes no difference what the tick counter shows. -/
structure Peer.IsTickBlind (P : Type) [Peer P] : Prop where
  onListen : ∀ (peer : P) (channel : UInt8) (accessAddress : UInt32) (now now' : Tick),
    Peer.onListen peer channel accessAddress now = Peer.onListen peer channel accessAddress now'
  onTransmit : ∀ (peer : P) (pdu : Bytes) (channel : UInt8) (accessAddress : UInt32)
    (now now' : Tick), Peer.onTransmit peer pdu channel accessAddress now =
      Peer.onTransmit peer pdu channel accessAddress now'

theorem hasElapsed_shift (now start k : Tick) (span : UInt32) :
    hasElapsed (now + k) (start + k) span = hasElapsed now start span := by
  unfold hasElapsed
  rw [elapsedSince_add_add]

structure Clock.Shifted (k : Tick) (clock clock' : Clock) : Prop where
  now : clock'.now = clock.now + k
  step : clock'.step = clock.step

theorem Clock.Shifted.afterRead {k : Tick} {clock clock' : Clock} (h : clock.Shifted k clock') :
    clock.afterRead.Shifted k clock'.afterRead := by
  refine ⟨?_, h.step⟩
  rw [now_afterRead, now_afterRead, h.now, h.step]
  ac_rfl

structure Radio.Shifted {P : Type} (k : Tick) (radio radio' : Radio P) : Prop where
  clock : radio.clock.Shifted k radio'.clock
  peer : radio'.peer = radio.peer
  journal : radio'.journal.toList.map (RadioEvent.shown 0) =
    radio.journal.toList.map (RadioEvent.shown k)
  accessAddress : radio'.accessAddress = radio.accessAddress
  listening : radio'.listening = radio.listening.map (Listening.shift k)
  received : radio'.received = radio.received.map (RxFrame.shift k)

namespace Radio.Shifted

variable {P : Type} {k : Tick} {radio radio' : Radio P}

theorem record (h : radio.Shifted k radio') {event event' : RadioEvent}
    (same : event'.shown 0 = event.shown k) :
    (radio.record event).Shifted k (radio'.record event') := by
  refine ⟨h.clock, h.peer, ?_, h.accessAddress, h.listening, h.received⟩
  simp only [Radio.record, Array.toList_push, List.map_append, List.map_cons, List.map_nil,
    h.journal, same]

theorem afterRead (h : radio.Shifted k radio') : radio.afterRead.Shifted k radio'.afterRead :=
  ⟨h.clock.afterRead, h.peer, h.journal, h.accessAddress, h.listening, h.received⟩

theorem configure (h : radio.Shifted k radio') (accessAddress crcInit : UInt32) (phy : Phy) :
    (radio.configure accessAddress crcInit phy).Shifted k
      (radio'.configure accessAddress crcInit phy) := by
  have same : (RadioEvent.configured accessAddress crcInit phy).shown 0 =
      (RadioEvent.configured accessAddress crcInit phy).shown k := rfl
  have recorded := h.record same
  exact ⟨recorded.clock, recorded.peer, recorded.journal, rfl, recorded.listening,
    recorded.received⟩

theorem shown_now (h : radio.Shifted k radio') :
    (Time.tick radio'.clock.time + 0).toNat = (Time.tick radio.clock.time + k).toNat := by
  have now := h.clock.now
  unfold Clock.now at now
  rw [now, UInt32.add_zero]

theorem idle (h : radio.Shifted k radio') : radio.idle.Shifted k radio'.idle := by
  have same : (RadioEvent.idled radio'.clock.time).shown 0 =
      (RadioEvent.idled radio.clock.time).shown k := congrArg RadioEvent.idled h.shown_now
  have recorded := h.record same
  exact ⟨recorded.clock, recorded.peer, recorded.journal, recorded.accessAddress, rfl,
    recorded.received⟩

theorem transmit [Peer P] (blind : Peer.IsTickBlind P) (h : radio.Shifted k radio')
    (channel : UInt8) (pdu : Bytes) :
    (radio.transmit channel pdu).Shifted k (radio'.transmit channel pdu) := by
  have same : (RadioEvent.transmitted channel pdu radio'.clock.time).shown 0 =
      (RadioEvent.transmitted channel pdu radio.clock.time).shown k :=
    congrArg (RadioEvent.transmitted channel pdu) h.shown_now
  have recorded := h.record same
  refine ⟨recorded.clock, ?_, recorded.journal, recorded.accessAddress, recorded.listening,
    recorded.received⟩
  change Peer.onTransmit radio'.peer pdu channel radio'.accessAddress radio'.clock.now =
    Peer.onTransmit radio.peer pdu channel radio.accessAddress radio.clock.now
  rw [h.peer, h.accessAddress]
  exact blind.onTransmit _ _ _ _ _ _

theorem receive [Peer P] (blind : Peer.IsTickBlind P) (h : radio.Shifted k radio')
    (channel : UInt8) :
    (radio.receive channel).2.Shifted k (radio'.receive channel).2 := by
  have same : (RadioEvent.listened channel radio'.clock.time).shown 0 =
      (RadioEvent.listened channel radio.clock.time).shown k :=
    congrArg (RadioEvent.listened channel) h.shown_now
  have recorded := h.record same
  have told : Peer.onListen radio'.peer channel radio'.accessAddress radio'.clock.now =
      Peer.onListen radio.peer channel radio.accessAddress radio.clock.now := by
    rw [h.peer, h.accessAddress]
    exact blind.onListen _ _ _ _ _
  have listening : (radio'.receive channel).2.listening =
      (radio.receive channel).2.listening.map (Listening.shift k) := by
    change some (Listening.mk radio'.clock.now (Peer.onListen radio'.peer channel
      radio'.accessAddress radio'.clock.now).1.delivery) = some (Listening.mk
        (radio.clock.now + k) (Peer.onListen radio.peer channel radio.accessAddress
          radio.clock.now).1.delivery)
    rw [told, h.clock.now]
  exact ⟨recorded.clock, congrArg Prod.snd told, recorded.journal, recorded.accessAddress,
    listening, rfl⟩

theorem deliver (h : radio.Shifted k radio') (frame : RxFrame) :
    (radio.deliver frame).Shifted k (radio'.deliver (frame.shift k)) := by
  have same : (RadioEvent.delivered (frame.shift k)).shown 0 =
      (RadioEvent.delivered frame).shown k := by
    simp [RadioEvent.shown, RxFrame.shift]
  have recorded := h.record same
  exact ⟨recorded.clock, recorded.peer, recorded.journal, recorded.accessAddress, rfl, rfl⟩

theorem frame_eq (h : radio.Shifted k radio') : radio'.frame = radio.frame.shift k := by
  unfold Radio.frame
  rw [h.received, h.clock.now]
  cases radio.received <;> rfl

theorem awaited_eq (h : radio.Shifted k radio') :
    radio'.awaited = radio.awaited.map fun (opened, delivery) => (opened + k, delivery) := by
  unfold Radio.awaited
  rw [h.listening]
  rcases radio.listening with _ | ⟨opened, _ | delivery⟩ <;> rfl

theorem rxReady (h : radio.Shifted k radio') :
    radio'.rxReady.1 = radio.rxReady.1 ∧ radio.rxReady.2.Shifted k radio'.rxReady.2 := by
  rw [Radio.rxReady_eq, Radio.rxReady_eq, h.awaited_eq, h.clock.now]
  rcases radio.awaited with _ | ⟨opened, delivery⟩
  · exact ⟨rfl, h.afterRead⟩
  · have complete : Radio.completed (opened + k) delivery =
        (Radio.completed opened delivery).shift k := by
      unfold Radio.completed RxFrame.shift
      congr 1
      ac_rfl
    dsimp only [Option.map_some]
    rw [hasElapsed_shift, complete]
    split
    · exact ⟨rfl, h.afterRead.deliver _⟩
    · exact ⟨rfl, h.afterRead⟩

end Radio.Shifted

structure Waited.Alike {σ α : Type} (related : σ → σ → Prop) (f : α → α)
    (waited waited' : Waited σ α) : Prop where
  value? : waited'.value? = waited.value?.map f
  polls : waited'.polls = waited.polls
  state : related waited.state waited'.state

namespace Clock.Shifted

variable {k : Tick} {clock clock' : Clock}

theorem poll (h : clock.Shifted k clock') (polls : Nat) :
    (clock.poll polls).Alike (Shifted k) (· + k) (clock'.poll polls) := by
  cases polls with
  | zero => exact ⟨rfl, rfl, h⟩
  | succ polls => exact ⟨congrArg some h.now, rfl, h.afterRead⟩

theorem waitUntil (h : clock.Shifted k clock') (start : Tick) (span : UInt32) (polls : Nat) :
    (Clock.waitUntil start span polls clock).Alike (Shifted k) id
      (Clock.waitUntil (start + k) span polls clock') := by
  induction polls generalizing clock clock' with
  | zero => exact ⟨rfl, rfl, h⟩
  | succ polls ih =>
    unfold Clock.waitUntil
    rw [h.now, hasElapsed_shift]
    split
    · exact ⟨rfl, rfl, h.afterRead⟩
    · exact ih h.afterRead

end Clock.Shifted

namespace Radio.Shifted

variable {P : Type} {k : Tick} {radio radio' : Radio P}

theorem listen (h : radio.Shifted k radio') (start : Tick) (span : UInt32) (polls : Nat) :
    (Radio.listen start span polls radio).Alike (Shifted k) (Option.map (RxFrame.shift k))
      (Radio.listen (start + k) span polls radio') := by
  induction polls using Nat.strongRecOn generalizing radio radio' with
  | ind polls ih =>
    obtain ⟨same, shifted⟩ := h.rxReady
    rcases asked : radio.rxReady with ⟨ready, after⟩
    rcases asked' : radio'.rxReady with ⟨ready', after'⟩
    rw [asked, asked'] at same shifted
    dsimp only at same shifted
    subst same
    match polls with
    | 0 => exact ⟨rfl, rfl, h⟩
    | 1 =>
      simp only [Radio.listen, asked, asked']
      split
      · exact ⟨congrArg (some ∘ some) shifted.frame_eq, rfl, shifted⟩
      · exact ⟨rfl, rfl, shifted⟩
    | polls + 2 =>
      simp only [Radio.listen, asked, asked', shifted.clock.now, hasElapsed_shift]
      split
      · exact ⟨congrArg (some ∘ some) shifted.frame_eq, rfl, shifted⟩
      · split
        · exact ⟨rfl, rfl, shifted.afterRead.idle⟩
        · exact ih polls (by omega) shifted.afterRead

theorem waitForFrame (h : radio.Shifted k radio') (polls : Nat) :
    (Radio.waitForFrame polls radio).Alike (Shifted k) (RxFrame.shift k)
      (Radio.waitForFrame polls radio') := by
  induction polls generalizing radio radio' with
  | zero => exact ⟨rfl, rfl, h⟩
  | succ polls ih =>
    obtain ⟨same, shifted⟩ := h.rxReady
    rcases asked : radio.rxReady with ⟨ready, after⟩
    rcases asked' : radio'.rxReady with ⟨ready', after'⟩
    rw [asked, asked'] at same shifted
    dsimp only at same shifted
    subst same
    simp only [Radio.waitForFrame, asked, asked']
    split
    · exact ⟨congrArg some shifted.frame_eq, rfl, shifted⟩
    · exact ih shifted

end Radio.Shifted

/-- The second world is the first, `k` ticks ahead, but for what has been said in it. -/
structure World.Shifted {P : Type} (k : Tick) (w w' : World P) : Prop where
  radio : w.radio.Shifted k w'.radio
  polls : w'.polls = w.polls
  dispatched : w'.dispatched = w.dispatched

namespace LinkM

variable {P α β : Type} {k : Tick}

/-- Two actions end alike: both return, with a value in the second that depends on the value
in the first, or both give up. -/
inductive Alike (k : Tick) (f : α → α) :
    EStateM.Result Hang (World P) α → EStateM.Result Hang (World P) α → Prop
  | ok {w w' : World P} (a : α) (shifted : w.Shifted k w') : Alike k f (.ok a w) (.ok (f a) w')
  | error {w w' : World P} (e : Hang) (shifted : w.Shifted k w') :
      Alike k f (.error e w) (.error e w')

def Shifts (k : Tick) (f : α → α) (x x' : LinkM P α) : Prop :=
  ∀ ⦃w w' : World P⦄, w.Shifted k w' → Alike k f (x w) (x' w')

theorem Shifts.eq_ok {f : α → α} {x x' : LinkM P α} {w w' u : World P} {a : α}
    (h : Shifts k f x x') (shifted : w.Shifted k w') (done : x w = .ok a u) :
    ∃ u', x' w' = .ok (f a) u' ∧ u.Shifted k u' := by
  have ends := h shifted
  rw [done] at ends
  generalize x' w' = result at ends
  cases ends with
  | ok _ shifted => exact ⟨_, rfl, shifted⟩

theorem Shifts.pure (f : α → α) (a : α) :
    Shifts k f (Pure.pure a : LinkM P α) (Pure.pure (f a)) := by
  intro w w' shifted
  exact .ok a shifted

theorem Shifts.bind {f : α → α} {g : β → β} {x x' : LinkM P α} {p p' : α → LinkM P β}
    (first : Shifts k f x x') (rest : ∀ a, Shifts k g (p a) (p' (f a))) :
    Shifts k g (x >>= p) (x' >>= p') := by
  intro w w' shifted
  change Alike k g (EStateM.bind x p w) (EStateM.bind x' p' w')
  unfold EStateM.bind
  have ends := first shifted
  cases done : x w with
  | ok a u =>
    cases done' : x' w' with
    | ok a' u' =>
      rw [done, done'] at ends
      cases ends with
      | ok _ shifted => exact rest a shifted
    | error e' u' =>
      rw [done, done'] at ends
      cases ends
  | error e u =>
    cases done' : x' w' with
    | ok a' u' =>
      rw [done, done'] at ends
      cases ends
    | error e' u' =>
      rw [done, done'] at ends
      cases ends with
      | error _ shifted => exact .error e shifted

theorem Shifts.ite {f : α → α} {c : Prop} [Decidable c] {x x' y y' : LinkM P α}
    (yes : Shifts k f x x') (no : Shifts k f y y') :
    Shifts k f (if c then x else y) (if c then x' else y') := by
  split
  · exact yes
  · exact no

theorem Shifts.note (notice notice' : Notice) :
    Shifts k id (note notice : LinkM P Unit) (note notice') := by
  intro w w' shifted
  exact .ok () ⟨shifted.radio, shifted.polls, shifted.dispatched⟩

theorem Shifts.noteAll (new new' : List Notice) :
    Shifts k id (noteAll new : LinkM P Unit) (noteAll new') := by
  intro w w' shifted
  exact .ok () ⟨shifted.radio, shifted.polls, shifted.dispatched⟩

theorem Shifts.dispatch (controls : ControlTable) (pdu : ControlPdu) (context : ConnectionContext) :
    Shifts k id (dispatch controls pdu context : LinkM P ControlAction)
      (dispatch controls pdu context) := by
  intro w w' shifted
  exact .ok (controls.dispatch pdu context).1
    ⟨shifted.radio, shifted.polls, congrArg (·.push pdu) shifted.dispatched⟩

theorem Shifts.onRadio {change : Radio P → Radio P}
    (h : ∀ {radio radio' : Radio P}, radio.Shifted k radio' →
      (change radio).Shifted k (change radio')) :
    Shifts k id (onRadio change) (onRadio change) := by
  intro w w' shifted
  exact .ok () ⟨h shifted.radio, shifted.polls, shifted.dispatched⟩

theorem Shifts.awaitRadio {f : α → α} {wait wait' : Nat → Radio P → Waited (Radio P) α}
    (h : ∀ {radio radio' : Radio P} (polls : Nat), radio.Shifted k radio' →
      (wait polls radio).Alike (Radio.Shifted k) f (wait' polls radio')) :
    Shifts k f (awaitRadio wait) (awaitRadio wait') := by
  rintro ⟨radio, polls, notices, dispatched⟩ ⟨radio', polls', notices', dispatched'⟩
    ⟨shifted, samePolls, sameDispatched⟩
  dsimp only at shifted samePolls sameDispatched
  subst samePolls sameDispatched
  have ends := h polls' shifted
  dsimp only [LinkM.awaitRadio]
  generalize wait polls' radio = waited at ends ⊢
  generalize wait' polls' radio' = waited' at ends ⊢
  obtain ⟨value?, rest, after⟩ := waited
  obtain ⟨value'?, rest', after'⟩ := waited'
  obtain ⟨value, polls, state⟩ := ends
  dsimp only at value polls state
  subst value polls
  cases value? with
  | none => exact .error _ ⟨state, rfl, rfl⟩
  | some a => exact .ok a ⟨state, rfl, rfl⟩

theorem Shifts.awaitClock {f : α → α} {wait wait' : Nat → Clock → Waited Clock α}
    (h : ∀ {clock clock' : Clock} (polls : Nat), clock.Shifted k clock' →
      (wait polls clock).Alike (Clock.Shifted k) f (wait' polls clock')) :
    Shifts k f (awaitClock wait : LinkM P α) (awaitClock wait') := by
  apply Shifts.awaitRadio
  intro radio radio' polls shifted
  have ends := h polls shifted.clock
  exact ⟨ends.value?, ends.polls, ends.state, shifted.peer, shifted.journal,
    shifted.accessAddress, shifted.listening, shifted.received⟩

theorem Shifts.readClock : Shifts k (· + k) (readClock : LinkM P Tick) readClock :=
  .awaitClock fun polls shifted => shifted.poll polls

theorem Shifts.waitUntil (start : Tick) (span : UInt32) :
    Shifts k id (waitUntil start span : LinkM P Unit) (waitUntil (start + k) span) :=
  .awaitClock fun polls shifted => shifted.waitUntil start span polls

theorem Shifts.listen (start : Tick) (span : UInt32) :
    Shifts k (Option.map (RxFrame.shift k)) (listen start span : LinkM P (Option RxFrame))
      (listen (start + k) span) :=
  .awaitRadio fun polls shifted => shifted.listen start span polls

theorem Shifts.waitForFrame :
    Shifts k (RxFrame.shift k) (waitForFrame : LinkM P RxFrame) waitForFrame :=
  .awaitRadio fun polls shifted => shifted.waitForFrame polls

theorem Shifts.configure (accessAddress crcInit : UInt32) (phy : Phy) :
    Shifts k id (configure accessAddress crcInit phy : LinkM P Unit)
      (configure accessAddress crcInit phy) :=
  .onRadio fun shifted => shifted.configure accessAddress crcInit phy

theorem Shifts.idle : Shifts k id (idle : LinkM P Unit) idle :=
  .onRadio fun shifted => shifted.idle

theorem Shifts.send [Peer P] (blind : Peer.IsTickBlind P) (pdu : Bytes) (channel : UInt8) :
    Shifts k id (send pdu channel : LinkM P Unit) (send pdu channel) := by
  apply Shifts.bind (.note _ _)
  intro _
  exact .onRadio fun shifted => shifted.transmit blind channel pdu

theorem Shifts.receive [Peer P] (blind : Peer.IsTickBlind P) (channel : UInt8) :
    Shifts k id (receive channel : LinkM P Unit) (receive channel) := by
  intro w w' shifted
  exact .ok () ⟨shifted.radio.receive blind channel, shifted.polls, shifted.dispatched⟩

end LinkM

end BlePeripheral

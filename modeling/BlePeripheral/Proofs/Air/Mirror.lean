import BlePeripheral.Proofs.Air.Shift

/-! Two worlds that differ in their past only. Their clocks show the same, their radios are tuned
alike and listen to the same, and their peers offer the same from here on. An action that returns
in the first then does the same in the second, if it is given no fewer polls there. -/

namespace BlePeripheral

section Peers

variable {P Q : Type} [Peer P] [Peer Q]

/-- Peers that are related offer the same frame, and stay related whatever they are told. -/
structure Peer.Bisimulation (related : P → Q → Prop) : Prop where
  offers : ∀ {peer : P} {peer' : Q} (channel : UInt8) (accessAddress : UInt32) (now : Tick),
    related peer peer' → (onListen peer' channel accessAddress now).1.delivery =
      (onListen peer channel accessAddress now).1.delivery
  listens : ∀ {peer : P} {peer' : Q} (channel : UInt8) (accessAddress : UInt32) (now : Tick),
    related peer peer' → related (onListen peer channel accessAddress now).2
      (onListen peer' channel accessAddress now).2
  hears : ∀ {peer : P} {peer' : Q} (pdu : Bytes) (channel : UInt8) (accessAddress : UInt32)
    (now : Tick), related peer peer' → related (onTransmit peer pdu channel accessAddress now)
      (onTransmit peer' pdu channel accessAddress now)

/-- The peers behave identically from here on. -/
def Peer.Alike (peer : P) (peer' : Q) : Prop :=
  ∃ related : P → Q → Prop, Bisimulation related ∧ related peer peer'

theorem Peer.Alike.refl (peer : P) : Alike peer peer :=
  ⟨Eq, ⟨by rintro _ _ _ _ _ rfl; rfl, by rintro _ _ _ _ _ rfl; rfl,
    by rintro _ _ _ _ _ _ rfl; rfl⟩, rfl⟩

theorem Peer.Alike.symm {peer : P} {peer' : Q} (h : Alike peer peer') : Alike peer' peer := by
  obtain ⟨related, bisimulation, here⟩ := h
  refine ⟨fun peer' peer => related peer peer', ⟨?_, ?_, ?_⟩, here⟩
  · intro _ _ channel accessAddress now there
    exact (bisimulation.offers channel accessAddress now there).symm
  · intro _ _ channel accessAddress now there
    exact bisimulation.listens channel accessAddress now there
  · intro _ _ pdu channel accessAddress now there
    exact bisimulation.hears pdu channel accessAddress now there

theorem Peer.Alike.offers {peer : P} {peer' : Q} (h : Alike peer peer') (channel : UInt8)
    (accessAddress : UInt32) (now : Tick) : (onListen peer' channel accessAddress now).1.delivery =
      (onListen peer channel accessAddress now).1.delivery := by
  obtain ⟨related, bisimulation, here⟩ := h
  exact bisimulation.offers channel accessAddress now here

theorem Peer.Alike.listens {peer : P} {peer' : Q} (h : Alike peer peer') (channel : UInt8)
    (accessAddress : UInt32) (now : Tick) : Alike (onListen peer channel accessAddress now).2
      (onListen peer' channel accessAddress now).2 := by
  obtain ⟨related, bisimulation, here⟩ := h
  exact ⟨related, bisimulation, bisimulation.listens channel accessAddress now here⟩

theorem Peer.Alike.hears {peer : P} {peer' : Q} (h : Alike peer peer') (pdu : Bytes)
    (channel : UInt8) (accessAddress : UInt32) (now : Tick) :
    Alike (onTransmit peer pdu channel accessAddress now)
      (onTransmit peer' pdu channel accessAddress now) := by
  obtain ⟨related, bisimulation, here⟩ := h
  exact ⟨related, bisimulation, bisimulation.hears pdu channel accessAddress now here⟩

end Peers

structure Clock.Agrees (clock clock' : Clock) : Prop where
  now : clock'.now = clock.now
  step : clock'.step = clock.step

namespace Clock.Agrees

variable {clock clock' : Clock}

theorem symm (h : clock.Agrees clock') : clock'.Agrees clock := ⟨h.now.symm, h.step.symm⟩

theorem afterRead (h : clock.Agrees clock') : clock.afterRead.Agrees clock'.afterRead := by
  refine ⟨?_, h.step⟩
  rw [now_afterRead, now_afterRead, h.now, h.step]

theorem later (h : clock.Agrees clock') (wait : Nat) :
    Agrees { clock with time := clock.time + wait } { clock' with time := clock'.time + wait } := by
  have now := h.now
  refine ⟨?_, h.step⟩
  simp only [Clock.now, Time.tick, UInt32.ofNat_add] at now ⊢
  rw [now]

end Clock.Agrees

/-- The second radio is as the first, but for what either has done before. -/
structure Radio.Mirrors {P Q : Type} [Peer P] [Peer Q] (before before' : List RadioEvent)
    (radio : Radio P) (radio' : Radio Q) : Prop where
  clock : radio.clock.Agrees radio'.clock
  peer : Peer.Alike radio.peer radio'.peer
  journal : ∃ log log', radio.journal.toList = before ++ log ∧
    radio'.journal.toList = before' ++ log' ∧
    log'.map (RadioEvent.shown 0) = log.map (RadioEvent.shown 0)
  accessAddress : radio'.accessAddress = radio.accessAddress
  listening : radio'.listening = radio.listening

namespace Radio.Mirrors

variable {P Q : Type} [Peer P] [Peer Q] {before before' : List RadioEvent} {radio : Radio P}
  {radio' : Radio Q}

theorem symm (h : Mirrors before before' radio radio') : Mirrors before' before radio' radio := by
  obtain ⟨log, log', journal, journal', same⟩ := h.journal
  exact ⟨h.clock.symm, h.peer.symm, ⟨log', log, journal', journal, same.symm⟩,
    h.accessAddress.symm, h.listening.symm⟩

theorem record (h : Mirrors before before' radio radio') {event event' : RadioEvent}
    (same : event'.shown 0 = event.shown 0) :
    Mirrors before before' (radio.record event) (radio'.record event') := by
  obtain ⟨log, log', journal, journal', logs⟩ := h.journal
  refine ⟨h.clock, h.peer, ⟨log ++ [event], log' ++ [event'], ?_, ?_, ?_⟩, h.accessAddress,
    h.listening⟩
  · rw [Radio.record, Array.toList_push, journal, List.append_assoc]
  · rw [Radio.record, Array.toList_push, journal', List.append_assoc]
  · simp only [List.map_append, List.map_cons, List.map_nil, logs, same]

theorem afterRead (h : Mirrors before before' radio radio') :
    Mirrors before before' radio.afterRead radio'.afterRead :=
  ⟨h.clock.afterRead, h.peer, h.journal, h.accessAddress, h.listening⟩

theorem configure (h : Mirrors before before' radio radio') (accessAddress crcInit : UInt32)
    (phy : Phy) : Mirrors before before' (radio.configure accessAddress crcInit phy)
      (radio'.configure accessAddress crcInit phy) := by
  have same : (RadioEvent.configured accessAddress crcInit phy).shown 0 =
      (RadioEvent.configured accessAddress crcInit phy).shown 0 := rfl
  have recorded := h.record same
  exact ⟨recorded.clock, recorded.peer, recorded.journal, rfl, recorded.listening⟩

theorem shown_now (h : Mirrors before before' radio radio') :
    (Time.tick radio'.clock.time + 0).toNat = (Time.tick radio.clock.time + 0).toNat := by
  have now := h.clock.now
  unfold Clock.now at now
  rw [now]

theorem idle (h : Mirrors before before' radio radio') :
    Mirrors before before' radio.idle radio'.idle := by
  have same : (RadioEvent.idled radio'.clock.time).shown 0 =
      (RadioEvent.idled radio.clock.time).shown 0 := congrArg RadioEvent.idled h.shown_now
  have recorded := h.record same
  exact ⟨recorded.clock, recorded.peer, recorded.journal, recorded.accessAddress, rfl⟩

theorem transmit (h : Mirrors before before' radio radio') (channel : UInt8) (pdu : Bytes) :
    Mirrors before before' (radio.transmit channel pdu) (radio'.transmit channel pdu) := by
  have same : (RadioEvent.transmitted channel pdu radio'.clock.time).shown 0 =
      (RadioEvent.transmitted channel pdu radio.clock.time).shown 0 :=
    congrArg (RadioEvent.transmitted channel pdu) h.shown_now
  have recorded := h.record same
  refine ⟨recorded.clock, ?_, recorded.journal, recorded.accessAddress, recorded.listening⟩
  change Peer.Alike (Peer.onTransmit radio.peer pdu channel radio.accessAddress radio.clock.now)
    (Peer.onTransmit radio'.peer pdu channel radio'.accessAddress radio'.clock.now)
  rw [h.accessAddress, h.clock.now]
  exact h.peer.hears _ _ _ _

theorem receive (h : Mirrors before before' radio radio') (channel : UInt8) :
    Mirrors before before' (radio.receive channel).2 (radio'.receive channel).2 := by
  have same : (RadioEvent.listened channel radio'.clock.time).shown 0 =
      (RadioEvent.listened channel radio.clock.time).shown 0 :=
    congrArg (RadioEvent.listened channel) h.shown_now
  have recorded := h.record same
  have offer : (radio'.offer channel).1.delivery = (radio.offer channel).1.delivery := by
    rw [Radio.offer, h.accessAddress, h.clock.now]
    exact h.peer.offers _ _ _
  have told : Peer.Alike (radio.offer channel).2 (radio'.offer channel).2 := by
    rw [Radio.offer, Radio.offer, h.accessAddress, h.clock.now]
    exact h.peer.listens _ _ _
  refine ⟨recorded.clock, told, recorded.journal, recorded.accessAddress, ?_⟩
  change some (Listening.mk radio'.clock.now (radio'.offer channel).1.delivery) =
    some (Listening.mk radio.clock.now (radio.offer channel).1.delivery)
  rw [h.clock.now, offer]

theorem deliver (h : Mirrors before before' radio radio') (frame : RxFrame) :
    Mirrors before before' (radio.deliver frame) (radio'.deliver frame) := by
  have same : (RadioEvent.delivered frame).shown 0 = (RadioEvent.delivered frame).shown 0 := rfl
  have recorded := h.record same
  exact ⟨recorded.clock, recorded.peer, recorded.journal, recorded.accessAddress, rfl⟩

theorem rxReady (h : Mirrors before before' radio radio') :
    radio'.rxReady.1 = radio.rxReady.1 ∧
      Mirrors before before' radio.rxReady.2 radio'.rxReady.2 ∧
      (radio.rxReady.1 = true → radio'.rxReady.2.frame = radio.rxReady.2.frame) := by
  have awaited : radio'.awaited = radio.awaited := by
    rw [Radio.awaited, h.listening]
    rfl
  rw [Radio.rxReady_eq, Radio.rxReady_eq, awaited, h.clock.now]
  rcases radio.awaited with _ | ⟨opened, delivery⟩
  · exact ⟨rfl, h.afterRead, nofun⟩
  · dsimp only
    split
    · exact ⟨rfl, h.afterRead.deliver _, fun _ => rfl⟩
    · exact ⟨rfl, h.afterRead, nofun⟩

end Radio.Mirrors

structure Waited.Mirrors {σ τ α : Type} (related : σ → τ → Prop) (a : α) (waited : Waited σ α)
    (waited' : Waited τ α) : Prop where
  value? : waited'.value? = some a
  polls : waited.polls ≤ waited'.polls
  state : related waited.state waited'.state

namespace Clock.Agrees

variable {clock clock' : Clock} {polls polls' : Nat}

theorem poll {now : Tick} (h : clock.Agrees clock') (enough : polls ≤ polls')
    (done : (clock.poll polls).value? = some now) :
    (clock.poll polls).Mirrors Agrees now (clock'.poll polls') := by
  cases polls with
  | zero => cases done
  | succ polls =>
    obtain ⟨polls', rfl⟩ := Nat.exists_eq_add_of_le' (Nat.le_trans (Nat.succ_pos polls) enough)
    cases done
    exact ⟨congrArg some h.now, Nat.le_of_succ_le_succ enough, h.afterRead⟩

theorem waitUntil {start : Tick} {span : UInt32} {u : Unit} (h : clock.Agrees clock')
    (enough : polls ≤ polls') (done : (Clock.waitUntil start span polls clock).value? = some u) :
    (Clock.waitUntil start span polls clock).Mirrors Agrees u
      (Clock.waitUntil start span polls' clock') := by
  induction polls generalizing clock clock' polls' with
  | zero => cases done
  | succ polls ih =>
    obtain ⟨polls', rfl⟩ := Nat.exists_eq_add_of_le' (Nat.le_trans (Nat.succ_pos polls) enough)
    unfold Clock.waitUntil at done ⊢
    rw [h.now]
    split at done
    · rename_i passed
      rw [if_pos passed, if_pos passed]
      exact ⟨rfl, Nat.le_of_succ_le_succ enough, h.afterRead⟩
    · rename_i early
      rw [if_neg early, if_neg early]
      exact ih h.afterRead (Nat.le_of_succ_le_succ enough) done

end Clock.Agrees

namespace Radio.Mirrors

variable {P Q : Type} [Peer P] [Peer Q] {before before' : List RadioEvent} {radio : Radio P}
  {radio' : Radio Q} {polls polls' : Nat}

theorem waitForFrame {frame : RxFrame} (h : Mirrors before before' radio radio')
    (enough : polls ≤ polls') (done : (Radio.waitForFrame polls radio).value? = some frame) :
    (Radio.waitForFrame polls radio).Mirrors (Mirrors before before') frame
      (Radio.waitForFrame polls' radio') := by
  induction polls generalizing radio radio' polls' with
  | zero => cases done
  | succ polls ih =>
    obtain ⟨polls', rfl⟩ := Nat.exists_eq_add_of_le' (Nat.le_trans (Nat.succ_pos polls) enough)
    obtain ⟨same, mirrors, frames⟩ := h.rxReady
    simp only [Radio.waitForFrame, same] at done ⊢
    split at done
    · rename_i ready
      rw [if_pos ready, if_pos ready, frames ready]
      exact ⟨done, Nat.le_of_succ_le_succ enough, mirrors⟩
    · rename_i early
      rw [if_neg early, if_neg early]
      exact ih mirrors (Nat.le_of_succ_le_succ enough) done

omit [Peer P] in
private theorem listen_of_ready (ready : radio.rxReady.1 = true) (start : Tick) (span : UInt32) :
    Radio.listen start span (polls + 1) radio =
      ⟨some (some radio.rxReady.2.frame), polls, radio.rxReady.2⟩ := by
  cases polls <;> simp only [Radio.listen, ready, if_true]

theorem listen {start : Tick} {span : UInt32} {heard : Option RxFrame}
    (h : Mirrors before before' radio radio') (enough : polls ≤ polls')
    (done : (Radio.listen start span polls radio).value? = some heard) :
    (Radio.listen start span polls radio).Mirrors (Mirrors before before') heard
      (Radio.listen start span polls' radio') := by
  induction polls using Nat.strongRecOn generalizing radio radio' polls' with
  | ind polls ih =>
    cases polls with
    | zero => cases done
    | succ polls =>
      obtain ⟨polls', rfl⟩ := Nat.exists_eq_add_of_le' (Nat.le_trans (Nat.succ_pos polls) enough)
      obtain ⟨same, mirrors, frames⟩ := h.rxReady
      by_cases ready : radio.rxReady.1 = true
      · rw [listen_of_ready ready] at done ⊢
        rw [listen_of_ready (same.trans ready), frames ready]
        exact ⟨done, Nat.le_of_succ_le_succ enough, mirrors⟩
      · cases polls with
        | zero => simp only [Radio.listen, if_neg ready, reduceCtorEq] at done
        | succ polls =>
          obtain ⟨polls', rfl⟩ := Nat.exists_eq_add_of_le'
            (Nat.le_trans (Nat.succ_pos polls) (Nat.le_of_succ_le_succ enough))
          have fewer : polls ≤ polls' := Nat.le_of_succ_le_succ (Nat.le_of_succ_le_succ enough)
          simp only [Radio.listen, same, if_neg ready, mirrors.clock.now] at done ⊢
          split at done
          · rename_i closed
            rw [if_pos closed, if_pos closed]
            exact ⟨done, fewer, mirrors.afterRead.idle⟩
          · rename_i still
            rw [if_neg still, if_neg still]
            exact ih polls (by omega) mirrors.afterRead fewer done

end Radio.Mirrors

/-- The worlds differ in their past only, and the second has no fewer polls. -/
structure World.Mirrors {P Q : Type} [Peer P] [Peer Q] (before before' : List RadioEvent)
    (w : World P) (w' : World Q) : Prop where
  radio : w.radio.Mirrors before before' w'.radio
  polls : w.polls ≤ w'.polls

namespace LinkM

variable {P Q : Type} [Peer P] [Peer Q] {α β γ δ : Type} {before before' : List RadioEvent}

/-- If the first action returns, so does the second, with a value that depends on the first. -/
def Mirrors (before before' : List RadioEvent) (f : α → β) (x : LinkM P α) (x' : LinkM Q β) :
    Prop :=
  ∀ ⦃w : World P⦄ ⦃w' : World Q⦄ ⦃a : α⦄ ⦃u : World P⦄, w.Mirrors before before' w' →
    x w = .ok a u → ∃ u', x' w' = .ok (f a) u' ∧ u.Mirrors before before' u'

theorem Mirrors.pure (f : α → β) (a : α) :
    Mirrors before before' f (Pure.pure a : LinkM P α) (Pure.pure (f a) : LinkM Q β) := by
  intro w w' b u mirrors done
  obtain ⟨rfl, rfl⟩ := pure_eq_ok.mp done
  exact ⟨w', rfl, mirrors⟩

theorem Mirrors.bind {f : α → β} {g : γ → δ} {x : LinkM P α} {x' : LinkM Q β} {p : α → LinkM P γ}
    {p' : β → LinkM Q δ} (first : Mirrors before before' f x x')
    (rest : ∀ a, Mirrors before before' g (p a) (p' (f a))) :
    Mirrors before before' g (x >>= p) (x' >>= p') := by
  intro w w' c v mirrors done
  obtain ⟨a, u, done, later⟩ := bind_eq_ok.mp done
  obtain ⟨u', done', mirrors⟩ := first mirrors done
  obtain ⟨v', later', mirrors⟩ := rest a mirrors later
  exact ⟨v', bind_eq_ok.mpr ⟨f a, u', done', later'⟩, mirrors⟩

theorem Mirrors.ite {f : α → β} {c : Prop} [Decidable c] {x y : LinkM P α} {x' y' : LinkM Q β}
    (yes : Mirrors before before' f x x') (no : Mirrors before before' f y y') :
    Mirrors before before' f (if c then x else y) (if c then x' else y') := by
  split
  · exact yes
  · exact no

theorem Mirrors.note (notice notice' : Notice) :
    Mirrors before before' id (note notice : LinkM P Unit) (note notice' : LinkM Q Unit) := by
  intro w w' a u mirrors done
  cases done
  exact ⟨_, rfl, mirrors.radio, mirrors.polls⟩

theorem Mirrors.noteAll (new new' : List Notice) :
    Mirrors before before' id (noteAll new : LinkM P Unit) (noteAll new' : LinkM Q Unit) := by
  intro w w' a u mirrors done
  cases done
  exact ⟨_, rfl, mirrors.radio, mirrors.polls⟩

theorem Mirrors.dispatch (controls : ControlTable) (pdu : ControlPdu) (context : ConnectionContext) :
    Mirrors before before' id (dispatch controls pdu context : LinkM P ControlAction)
      (dispatch controls pdu context : LinkM Q ControlAction) := by
  intro w w' a u mirrors done
  cases done
  exact ⟨_, rfl, mirrors.radio, mirrors.polls⟩

theorem Mirrors.configure (accessAddress crcInit : UInt32) (phy : Phy) :
    Mirrors before before' id (configure accessAddress crcInit phy : LinkM P Unit)
      (configure accessAddress crcInit phy : LinkM Q Unit) := by
  intro w w' a u mirrors done
  cases done
  exact ⟨_, rfl, mirrors.radio.configure accessAddress crcInit phy, mirrors.polls⟩

theorem Mirrors.idle :
    Mirrors before before' id (idle : LinkM P Unit) (idle : LinkM Q Unit) := by
  intro w w' a u mirrors done
  cases done
  exact ⟨_, rfl, mirrors.radio.idle, mirrors.polls⟩

theorem Mirrors.send (pdu : Bytes) (channel : UInt8) :
    Mirrors before before' id (send pdu channel : LinkM P Unit) (send pdu channel : LinkM Q Unit) := by
  intro w w' a u mirrors done
  cases done
  exact ⟨_, rfl, mirrors.radio.transmit channel pdu, mirrors.polls⟩

theorem Mirrors.receive (channel : UInt8) :
    Mirrors before before' id (receive channel : LinkM P Unit) (receive channel : LinkM Q Unit) := by
  intro w w' a u mirrors done
  cases done
  exact ⟨_, rfl, mirrors.radio.receive channel, mirrors.polls⟩

theorem Mirrors.awaitRadio {wait : Nat → Radio P → Waited (Radio P) α}
    {wait' : Nat → Radio Q → Waited (Radio Q) α}
    (h : ∀ {radio : Radio P} {radio' : Radio Q} {polls polls' : Nat} {a : α},
      radio.Mirrors before before' radio' → polls ≤ polls' →
      (wait polls radio).value? = some a →
      (wait polls radio).Mirrors (Radio.Mirrors before before') a (wait' polls' radio')) :
    Mirrors before before' id (awaitRadio wait) (awaitRadio wait') := by
  intro w w' a u mirrors done
  obtain ⟨radio, rest, waited, rfl⟩ := awaitRadio_eq_ok done
  have follows := h mirrors.radio mirrors.polls (by rw [waited])
  rw [waited] at follows
  rcases waited' : wait' w'.polls w'.radio with ⟨value'?, rest', radio'⟩
  rw [waited'] at follows
  obtain ⟨value, fewer, state⟩ := follows
  dsimp only at value
  subst value
  refine ⟨{ w' with radio := radio', polls := rest' }, ?_, state, fewer⟩
  unfold LinkM.awaitRadio
  simp only [waited']
  rfl

theorem Mirrors.awaitClock {wait wait' : Nat → Clock → Waited Clock α}
    (h : ∀ {clock clock' : Clock} {polls polls' : Nat} {a : α}, clock.Agrees clock' →
      polls ≤ polls' → (wait polls clock).value? = some a →
      (wait polls clock).Mirrors Clock.Agrees a (wait' polls' clock')) :
    Mirrors before before' id (awaitClock wait : LinkM P α) (awaitClock wait' : LinkM Q α) := by
  apply Mirrors.awaitRadio
  intro radio radio' polls polls' a mirrors enough done
  have follows := h mirrors.clock enough done
  exact ⟨follows.value?, follows.polls, follows.state, mirrors.peer, mirrors.journal,
    mirrors.accessAddress, mirrors.listening⟩

theorem Mirrors.readClock :
    Mirrors before before' id (readClock : LinkM P Tick) (readClock : LinkM Q Tick) :=
  .awaitClock fun agrees enough done => agrees.poll enough done

theorem Mirrors.waitUntil (start : Tick) (span : UInt32) :
    Mirrors before before' id (waitUntil start span : LinkM P Unit)
      (waitUntil start span : LinkM Q Unit) :=
  .awaitClock fun agrees enough done => agrees.waitUntil enough done

theorem Mirrors.listen (start : Tick) (span : UInt32) :
    Mirrors before before' id (listen start span : LinkM P (Option RxFrame))
      (listen start span : LinkM Q (Option RxFrame)) :=
  .awaitRadio fun mirrors enough done => mirrors.listen enough done

theorem Mirrors.waitForFrame :
    Mirrors before before' id (waitForFrame : LinkM P RxFrame) (waitForFrame : LinkM Q RxFrame) :=
  .awaitRadio fun mirrors enough done => mirrors.waitForFrame enough done

end LinkM

end BlePeripheral

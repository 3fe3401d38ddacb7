import BlePeripheral.Proofs.Link.ConnectionEvent

/-! How a connection comes about: the first frame on it is acknowledged whatever it holds, and
the connection is counted from there. -/

namespace BlePeripheral

def Connection.established (c : Connection) (frame : RxFrame) (anchor : Tick) : Connection :=
  { c with ack := c.ack.afterFrame frame.bytes, anchor, lastRx := anchor }

namespace Link

open LinkM

variable {P : Type} [Peer P]

def awaiting (link : Link) (c : Connection) (radio : Radio P) : Radio P :=
  ((radio.configure c.context.accessAddress c.context.crcInit link.config.phy).receive c.channel).2

def greeted (link : Link) (c : Connection) (radio : Radio P) (frame : RxFrame) (n : Nat) : Radio P :=
  ((link.awaiting c radio).afterReads (n + 1)).deliver frame

/-- The set-up of a connection: a frame is waited for, the inter-frame space passes after `m`
readings more, and the frame is answered whatever it holds. -/
structure Establishes (link : Link) (c : Connection) (radio : Radio P) (frame : RxFrame)
    (radio' : Radio P) (n m : Nat) : Prop where
  awaited : ∃ opened delivery, (link.awaiting c radio).awaited = some (opened, delivery) ∧
    frame = Radio.completed opened delivery ∧
    (link.awaiting c radio).clock.elapsedAt opened delivery.delay n = true
  early : ∀ i < n, (link.awaiting c radio).dueAt i = false
  passed : (link.greeted c radio frame n).clock.elapsedAt frame.timestamp
    link.config.tickRate.interFrameSpace m = true
  before : ∀ i < m, (link.greeted c radio frame n).clock.elapsedAt frame.timestamp
    link.config.tickRate.interFrameSpace i = false
  radio_eq : radio' = (((link.greeted c radio frame n).afterReads (m + 1)).transmit c.channel
    (c.ack.afterFrame frame.bytes).response).afterReads 1

theorem greeted_peer (link : Link) (c : Connection) (radio : Radio P) (frame : RxFrame) (n : Nat) :
    (link.greeted c radio frame n).peer = ((radio.configure c.context.accessAddress
      c.context.crcInit link.config.phy).offer c.channel).2 := rfl

theorem Establishes.offered {link : Link} {c : Connection} {radio radio' : Radio P}
    {frame : RxFrame} {n m : Nat} (h : link.Establishes c radio frame radio' n m) :
    ∃ delivery, ((radio.configure c.context.accessAddress c.context.crcInit
        link.config.phy).offer c.channel).1.delivery = some delivery ∧
      frame = Radio.completed radio.clock.now delivery ∧
      (link.awaiting c radio).clock.elapsedAt radio.clock.now delivery.delay n = true := by
  obtain ⟨opened, delivery, awaited, completed, due⟩ := h.awaited
  rw [awaiting, Radio.awaited_receive] at awaited
  obtain ⟨delivery', offered, same⟩ := Option.map_eq_some_iff.mp awaited
  cases same
  exact ⟨delivery, offered, completed, due⟩

theorem establish_returns {link link' : Link} {c : Connection} {w w' : World P} {event : LinkEvent}
    (h : link.establish c w = .ok (event, link') w') :
    ∃ frame n m, link.Establishes c w.radio frame w'.radio n m ∧ w'.dispatched = w.dispatched ∧
      link' = { link with state := .connected (c.established frame
        ((link.greeted c w.radio frame n).clock.afterReads (m + 1)).now) } := by
  unfold establish at h
  obtain ⟨_, u, configured, h⟩ := bind_eq_ok.mp h
  rw [configure_apply] at configured
  cases configured
  obtain ⟨_, u, received, h⟩ := bind_eq_ok.mp h
  rw [receive_apply] at received
  cases received
  obtain ⟨frame, u, waited, h⟩ := bind_eq_ok.mp h
  obtain ⟨n, rest, opened, delivery, rfl, awaited, completed, due, early⟩ :=
    waitForFrame_eq_ok waited
  obtain ⟨_, u, noted, h⟩ := bind_eq_ok.mp h
  rw [note_apply] at noted
  cases noted
  obtain ⟨_, u, waited, h⟩ := bind_eq_ok.mp h
  obtain ⟨m, rest, rfl, passed, before⟩ := waitUntil_eq_ok waited
  obtain ⟨_, u, sent, h⟩ := bind_eq_ok.mp h
  rw [sendAck_eq, send_apply] at sent
  cases sent
  obtain ⟨anchor, u, read, h⟩ := bind_eq_ok.mp h
  obtain ⟨rest, rfl, rfl⟩ := readClock_eq_ok read
  obtain ⟨_, u, noted, h⟩ := bind_eq_ok.mp h
  rw [note_apply] at noted
  cases noted
  obtain ⟨same, rfl⟩ := pure_eq_ok.mp h
  cases same
  exact ⟨frame, n, m, ⟨⟨opened, delivery, awaited, completed, due⟩, early, passed, before, rfl⟩,
    rfl, rfl⟩

/-- The set-up of a connection that returns has waited for a frame, let the inter-frame space
pass and answered; the anchor is the last reading of the clock. -/
theorem establish_eq_ok {link link' : Link} {c : Connection} {w w' : World P} {event : LinkEvent}
    (h : link.establish c w = .ok (event, link') w') :
    ∃ frame radio n m,
      radio = (((w.radio.configure c.context.accessAddress c.context.crcInit
          link.config.phy).receive c.channel).2.afterReads (n + 1)).deliver frame ∧
      w'.radio = ((radio.afterReads (m + 1)).transmit c.channel
          (c.ack.afterFrame frame.bytes).response).afterReads 1 ∧
      w'.dispatched = w.dispatched ∧
      link' = { link with state := link'.state } ∧
      link'.state = .connected (c.established frame (radio.clock.afterReads (m + 1)).now) := by
  obtain ⟨frame, n, m, establishes, same, rfl⟩ := establish_returns h
  exact ⟨frame, link.greeted c w.radio frame n, n, m, rfl, establishes.radio_eq, same, rfl, rfl⟩

theorem establish_event_eq {link link' : Link} {c : Connection} {w w' : World P} {event : LinkEvent}
    (h : link.establish c w = .ok (event, link') w') :
    event = .connected c.context.accessAddress c.channel := by
  unfold establish at h
  iterate 8 obtain ⟨_, _, -, h⟩ := bind_eq_ok.mp h
  obtain ⟨same, -⟩ := pure_eq_ok.mp h
  cases same
  rfl

end Link

end BlePeripheral

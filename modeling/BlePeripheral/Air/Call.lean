import BlePeripheral.Air.Wait

/-! The calls a user may make on a radio and its clock, and what each is answered with. -/

namespace BlePeripheral

inductive RadioCall where
  | configure (accessAddress crcInit : UInt32) (phy : Phy)
  | transmit (channel : UInt8) (pdu : Bytes)
  /-- Sending takes no time, so it is always done. -/
  | txDone
  | receive (channel : UInt8)
  | rxReady
  /-- Asks for a frame until there is one, but no more than `max` times in vain. -/
  | poll (max : Nat)
  | frame
  | idle
  | advance (ticks : UInt32)
  | now
  /-- Looks at the clock, which does not. -/
  | peek
  | clearJournal
  | journal
  | accessAddress

inductive RadioAnswer where
  | done
  | flag (b : Bool)
  | count (n : Nat)
  | word (n : UInt32)
  | frame (frame : RxFrame)
  | journal (events : List RadioEvent)

namespace Radio

variable {P : Type} [Peer P]

/-- Adds to `vain` the calls of `rxReady` that find nothing, out of `max`, up to one that
finds a frame. -/
def pollInVain (vain : Nat) : Nat → Radio P → Nat × Radio P
  | 0, radio => (vain, radio)
  | max + 1, radio =>
    let (ready, radio) := radio.rxReady
    if ready then (vain, radio) else pollInVain (vain + 1) max radio

def call (radio : Radio P) : RadioCall → RadioAnswer × Radio P
  | .configure accessAddress crcInit phy => (.done, radio.configure accessAddress crcInit phy)
  | .transmit channel pdu => (.done, radio.transmit channel pdu)
  | .txDone => (.flag true, radio)
  | .receive channel => (.done, (radio.receive channel).2)
  | .rxReady => let (ready, radio) := radio.rxReady; (.flag ready, radio)
  | .poll max => let (vain, radio) := pollInVain 0 max radio; (.count vain, radio)
  | .frame => (.frame radio.frame, radio)
  | .idle => (.done, radio.idle)
  | .advance ticks => (.done, { radio with clock := radio.clock.advance ticks })
  | .now => (.word radio.clock.now, radio.afterRead)
  | .peek => (.word radio.clock.now, radio)
  | .clearJournal => (.done, radio.clearJournal)
  | .journal => (.journal radio.journal.toList, radio)
  | .accessAddress => (.word radio.accessAddress, radio)

def calls (radio : Radio P) : List RadioCall → List RadioAnswer × Radio P
  | [] => ([], radio)
  | c :: rest =>
    let (answer, radio) := radio.call c
    let (answers, radio) := radio.calls rest
    (answer :: answers, radio)

end Radio

end BlePeripheral

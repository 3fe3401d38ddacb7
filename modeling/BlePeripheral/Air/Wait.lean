import BlePeripheral.Air.Radio

/-! Waiting by polling. Each reading of the clock is one poll, the one inside `rxReady`
included. A wait is given a number of polls and gives up, before it touches the clock again,
when they are spent; a wait that would never end is one that gives up for every number. -/

namespace BlePeripheral

/-- How a wait ended: with a value unless it gave up, with the polls it did not need. -/
structure Waited (σ α : Type) where
  value? : Option α
  polls : Nat
  state : σ

namespace Clock

def poll : Nat → Clock → Waited Clock Tick
  | 0, clock => ⟨none, 0, clock⟩
  | polls + 1, clock => ⟨some clock.now, polls, clock.afterRead⟩

def waitUntil (start : Tick) (span : UInt32) : Nat → Clock → Waited Clock Unit
  | 0, clock => ⟨none, 0, clock⟩
  | polls + 1, clock =>
    if hasElapsed clock.now start span then ⟨some (), polls, clock.afterRead⟩
    else waitUntil start span polls clock.afterRead

end Clock

namespace Radio

variable {P : Type}

/-- Listens for a frame until `span` ticks have passed since `start`, asking the radio and
reading the clock in turn. The radio is idled when nothing came. -/
def listen (start : Tick) (span : UInt32) : Nat → Radio P → Waited (Radio P) (Option RxFrame)
  | 0, radio => ⟨none, 0, radio⟩
  | 1, radio =>
    let (ready, radio) := radio.rxReady
    if ready then ⟨some (some radio.frame), 0, radio⟩ else ⟨none, 0, radio⟩
  | polls + 2, radio =>
    let (ready, radio) := radio.rxReady
    if ready then ⟨some (some radio.frame), polls + 1, radio⟩
    else if hasElapsed radio.clock.now start span then ⟨some none, polls, radio.afterRead.idle⟩
    else listen start span polls radio.afterRead

def waitForFrame : Nat → Radio P → Waited (Radio P) RxFrame
  | 0, radio => ⟨none, 0, radio⟩
  | polls + 1, radio =>
    let (ready, radio) := radio.rxReady
    if ready then ⟨some radio.frame, polls, radio⟩ else waitForFrame polls radio

end Radio

end BlePeripheral

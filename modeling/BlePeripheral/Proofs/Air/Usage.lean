import BlePeripheral.Connection.Context
import BlePeripheral.Proofs.Air.Listening

/-! How a radio may be used. It is tuned to the advertising channels or to a connection, sends
and listens on the channels that go with that, and does neither nor is tuned anew while it still
listens: every listening is ended first, by a frame or by the order to idle. -/

namespace BlePeripheral

inductive Regime where
  | advertising
  | connection (context : ConnectionContext)

namespace Regime

def accessAddress : Regime → UInt32
  | advertising => advAccessAddress
  | connection context => context.accessAddress

def crcInit : Regime → UInt32
  | advertising => advCrcInit
  | connection context => context.crcInit

def channels : Regime → List UInt8
  | advertising => [37, 38, 39]
  | connection context => context.used.toList

end Regime

structure Usage where
  regime : Regime
  armed : Bool

namespace Usage

/-- The events that a use of the radio admits next. -/
inductive Next (phy : Phy) : Usage → RadioEvent → Usage → Prop
  | configured (regime regime' : Regime) :
      Next phy ⟨regime, false⟩ (.configured regime'.accessAddress regime'.crcInit phy) ⟨regime', false⟩
  | transmitted {regime : Regime} {channel : UInt8} (pdu : Bytes) (time : Nat)
      (allowed : channel ∈ regime.channels) :
      Next phy ⟨regime, false⟩ (.transmitted channel pdu time) ⟨regime, false⟩
  | listened {regime : Regime} {channel : UInt8} (time : Nat)
      (allowed : channel ∈ regime.channels) :
      Next phy ⟨regime, false⟩ (.listened channel time) ⟨regime, true⟩
  | delivered (regime : Regime) (frame : RxFrame) :
      Next phy ⟨regime, true⟩ (.delivered frame) ⟨regime, false⟩
  | idled (regime : Regime) (armed : Bool) (time : Nat) :
      Next phy ⟨regime, armed⟩ (.idled time) ⟨regime, false⟩

inductive After (phy : Phy) : Usage → List RadioEvent → Usage → Prop
  | nil (usage : Usage) : After phy usage [] usage
  | cons {usage usage' usage'' : Usage} {event : RadioEvent} {log : List RadioEvent}
      (next : Next phy usage event usage') (rest : After phy usage' log usage'') :
      After phy usage (event :: log) usage''

theorem After.append {phy : Phy} {usage usage' usage'' : Usage} {log log' : List RadioEvent}
    (h : After phy usage log usage') (h' : After phy usage' log' usage'') :
    After phy usage (log ++ log') usage'' := by
  induction h with
  | nil => exact h'
  | cons next _ ih => exact .cons next (ih h')

end Usage

namespace RadioEvent

def tuning? : RadioEvent → Option (UInt32 × UInt32 × Phy)
  | configured accessAddress crcInit phy => some (accessAddress, crcInit, phy)
  | _ => none

end RadioEvent

def lastTuning? (log : List RadioEvent) : Option (UInt32 × UInt32 × Phy) :=
  (log.filterMap RadioEvent.tuning?).getLast?

theorem Usage.Next.lastTuning {phy : Phy} {usage usage' : Usage} {event : RadioEvent}
    {before : List RadioEvent} (h : Next phy usage event usage')
    (tuned : lastTuning? before = some (usage.regime.accessAddress, usage.regime.crcInit, phy)) :
    lastTuning? (before ++ [event]) =
      some (usage'.regime.accessAddress, usage'.regime.crcInit, phy) := by
  unfold lastTuning? at tuned ⊢
  rw [List.filterMap_append]
  cases h with
  | configured => exact List.getLast?_concat
  | transmitted => simpa [RadioEvent.tuning?] using tuned
  | listened => simpa [RadioEvent.tuning?] using tuned
  | delivered => simpa [RadioEvent.tuning?] using tuned
  | idled => simpa [RadioEvent.tuning?] using tuned

theorem Usage.After.lastTuning {phy : Phy} {usage usage' : Usage} {before log : List RadioEvent}
    (h : After phy usage log usage')
    (tuned : lastTuning? before = some (usage.regime.accessAddress, usage.regime.crcInit, phy)) :
    lastTuning? (before ++ log) =
      some (usage'.regime.accessAddress, usage'.regime.crcInit, phy) := by
  induction h generalizing before with
  | nil => rwa [List.append_nil]
  | cons next _ ih =>
    rw [List.append_cons]
    exact ih (next.lastTuning tuned)

namespace Radio

variable {P : Type}

structure RestsAt (radio : Radio P) (accessAddress : UInt32) : Prop where
  quiet : radio.listening = none
  tuned : radio.accessAddress = accessAddress

variable {radio radio' : Radio P} {accessAddress : UInt32}

theorem RestsAt.afterReads (h : radio.RestsAt accessAddress) (n : Nat) :
    (radio.afterReads n).RestsAt accessAddress := ⟨h.quiet, h.tuned⟩

theorem RestsAt.transmit [Peer P] (h : radio.RestsAt accessAddress) (channel : UInt8)
    (pdu : Bytes) : (radio.transmit channel pdu).RestsAt accessAddress := ⟨h.quiet, h.tuned⟩

theorem restsAt_deliver (radio : Radio P) (frame : RxFrame) :
    (radio.deliver frame).RestsAt radio.accessAddress := ⟨rfl, rfl⟩

theorem restsAt_idle_configure (radio : Radio P) (accessAddress crcInit : UInt32) (phy : Phy) :
    (radio.idle.configure accessAddress crcInit phy).RestsAt accessAddress := ⟨rfl, rfl⟩

theorem Heard.restsAt {start : Tick} {span : UInt32} {heard : Option RxFrame}
    (h : Heard radio start span heard radio') : radio'.RestsAt radio.accessAddress := by
  cases h with
  | frame => exact ⟨rfl, rfl⟩
  | silence => exact ⟨rfl, rfl⟩

end Radio

end BlePeripheral

import BlePeripheral.Bench.Peer
import BlePeripheral.Link.Basic

/-! Trying out a link: a sequence of steps and interventions, and a report after each of
what happened since the one before. A step that runs out of polls ends the session. -/

namespace BlePeripheral

inductive BenchOp where
  | step (count : Nat)
  /-- Steps of which only the last is reported, and none of their radio events. -/
  | skip (count : Nat)
  | advance (ticks : UInt32)
  | register (opcode : ControlOpcode) (handler : ControlHandler)
  | unregister (opcode : ControlOpcode)
  | queue (advertising data : Script)
  | clearJournal
  /-- Steps without end, within a number of polls. -/
  | run (polls : Nat)

inductive BenchOutcome where
  | started (state : LinkState)
  | stepped (event : LinkEvent) (state : LinkState)
  | skipped (last : Option LinkEvent) (state : LinkState)
  | advanced
  | ran
  | stepHung
  | skipHung
deriving DecidableEq, Repr

structure BenchReport where
  outcome : BenchOutcome
  radio : List RadioEvent
  now : Tick
  notices : List Notice

structure Bench where
  link : Link
  world : World BenchPeer

namespace Bench

def stepPolls : Nat := 1000000

def start (config : LinkConfig) (controls : ControlTable) (clock : Clock) (peer : BenchPeer) :
    Except LinkError Bench := do
  let (link, world) ← Link.start config controls { clock, peer }
  return { link, world }

def report (bench : Bench) (outcome : BenchOutcome) : BenchReport × Bench :=
  let { link, world := { radio, polls, notices, .. } } := bench
  ({ outcome, radio := radio.journal.toList, now := radio.clock.now, notices := notices.toList },
    { link, world := { radio := radio.clearJournal, polls } })

def step (bench : Bench) : Option LinkEvent × Bench :=
  let { link, world := { radio, notices, dispatched, .. } } := bench
  match link.step { radio, polls := stepPolls, notices, dispatched } with
  | .ok (event, link) world => (some event, { link, world })
  | .error .outOfPolls world => (none, { link, world })

/-- Reported steps. The flag tells that the last one ran out of polls. -/
def stepAll : Nat → Bench → List BenchReport × Bool × Bench
  | 0, bench => ([], false, bench)
  | n + 1, bench =>
    match bench.step with
    | (some event, bench) =>
      let (first, bench) := bench.report (.stepped event bench.link.state)
      let (rest, hung, bench) := stepAll n bench
      (first :: rest, hung, bench)
    | (none, bench) =>
      let (last, bench) := bench.report .stepHung
      ([last], true, bench)

def skipAll (last : Option LinkEvent) : Nat → Bench → BenchOutcome × Bool × Bench
  | 0, bench => (.skipped last bench.link.state, false, bench)
  | n + 1, bench =>
    match bench.step with
    | (some event, { link, world := { radio, polls, notices, dispatched } }) =>
      let radio := radio.clearJournal
      skipAll (some event) n { link, world := { radio, polls, notices, dispatched } }
    | (none, bench) => (.skipHung, true, bench)

/-- Every step spends a poll, so one step more than there are polls runs out of them. -/
def runOut (polls : Nat) (bench : Bench) : Bench :=
  let { link, world := { radio, notices, dispatched, .. } } := bench
  match link.run (polls + 1) { radio, polls, notices, dispatched } with
  | .ok link world => { link, world }
  | .error .outOfPolls world => { link, world }

def onRadio (bench : Bench) (change : Radio BenchPeer → Radio BenchPeer) : Bench :=
  { bench with world := { bench.world with radio := change bench.world.radio } }

def perform (bench : Bench) : BenchOp → List BenchReport × Bool × Bench
  | .step count => stepAll count bench
  | .skip count =>
    let (outcome, hung, bench) := skipAll none count bench
    let (report, bench) := bench.report outcome
    ([report], hung, bench)
  | .advance ticks =>
    let bench := bench.onRadio fun radio => { radio with clock := radio.clock.advance ticks }
    let (report, bench) := bench.report .advanced
    ([report], false, bench)
  | .register opcode handler =>
    ([], false,
      { bench with
        link := { bench.link with controls := bench.link.controls.register opcode handler } })
  | .unregister opcode =>
    ([], false,
      { bench with link := { bench.link with controls := bench.link.controls.unregister opcode } })
  | .queue advertising data =>
    ([], false,
      bench.onRadio fun radio => { radio with peer := radio.peer.queue advertising data })
  | .clearJournal => ([], false, bench.onRadio Radio.clearJournal)
  | .run polls =>
    let (report, bench) := (runOut polls bench).report .ran
    ([report], true, bench)

def performAll (bench : Bench) : List BenchOp → List BenchReport
  | [] => []
  | op :: rest =>
    let (reports, ended, bench) := bench.perform op
    reports ++ if ended then [] else bench.performAll rest

def session (bench : Bench) (ops : List BenchOp) : List BenchReport :=
  let (first, bench) := bench.report (.started bench.link.state)
  first :: bench.performAll ops

end Bench

end BlePeripheral

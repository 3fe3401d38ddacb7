import BlePeripheral.Advertising.ConfigText
import BlePeripheral.Air.Central
import BlePeripheral.CommandLine.Options
import BlePeripheral.Link.Basic

/-! What the command does: it runs a link against a simulated central and logs what happens,
step by step and in a summary. -/

namespace BlePeripheral

structure FileAccess where
  contents : String → Option String
  creatable : String → Bool

structure CommandResult where
  exit : Nat
  stdout : List String := []
  stderr : Option String := none
  /-- What the failure came from, where it was the link that failed. -/
  cause : Option String := none
deriving DecidableEq, Repr

namespace Simulation

def summary (events : List LinkEvent) : List (String × Nat) :=
  let headings := events.map LinkEvent.heading
  (headings.eraseDups.mergeSort fun a b => a ≤ b).map fun h => (h, headings.count h)

def summaryLine (heading : String) (count : Nat) : String :=
  "  " ++ heading ++ String.ofList (List.replicate (20 - heading.length) ' ') ++ s!" {count}"

def info (threshold : Option Level) (text : String) : List String :=
  if Level.info.passes threshold then [Level.info.line text] else []

def steps (threshold : Option Level) : Nat → Link → World Central → List (List String × LinkEvent)
  | 0, _, _ => []
  | n + 1, link, { radio, polls, notices, .. } =>
    match link.step { radio := radio.clearJournal, polls, notices } with
    | .error .outOfPolls _ => []
    | .ok (event, link) { radio, polls, notices, .. } =>
      let lines := Notice.lines threshold notices.toList ++
        info threshold s!"[{link.state.phase.name}] {event.record}"
      (lines, event) :: steps threshold n link { radio, polls }

def lines (threshold : Option Level) (count : Nat) (link : Link) (world : World Central) :
    List String :=
  let begun := Notice.lines threshold world.notices.toList
  let taken := steps threshold count link { world with notices := #[] }
  let counted := summary (taken.map (·.2))
  begun ++ taken.flatMap (·.1) ++ info threshold s!"Summary after {count} steps:" ++
    counted.flatMap fun (heading, n) => info threshold (summaryLine heading n)

/-- A central that answers after an inter-frame space, against a link that ends connections
on request. The clock moves by one tick a reading. -/
def run (options : RunOptions) (config : LinkConfig) (polls : Nat) : CommandResult :=
  let threshold := options.threshold
  let config := match options.ticksPerUs with
    | some ticks => { config with tickRate := ⟨ticks⟩ }
    | none => config
  let central : Central :=
    { target := config.address
      replyDelay := config.tickRate.interFrameSpace
      dropAfter := options.dropAfter
      terminates := options.terminate }
  let opening := info threshold
    s!"Simulated central {Central.address.text} targeting {config.address.text}"
  let controls : ControlTable :=
    ControlTable.register {} .terminateInd ControlHandler.terminateOnRequest
  match Link.start config controls { clock := { time := 0, step := 1 }, peer := central } with
  | .error e =>
    { exit := 1
      stdout := opening
      stderr := some "Error: Invalid link configuration"
      cause := some e.message }
  | .ok (link, world) =>
    let count := (options.steps.getD 40).toNat
    { exit := 0, stdout := opening ++ lines threshold count link { world with polls } }

end Simulation

namespace RunOptions

def loadConfig (options : RunOptions) (files : FileAccess) : Except String LinkConfig :=
  match options.config with
  | none => .ok {}
  | some path =>
    match files.contents path with
    | none => .error s!"Error: Failed to open config {Text.quoted path}"
    | some text =>
      match LinkConfig.ofText text with
      | .ok config => .ok config
      | .error _ => .error s!"Error: Failed to parse config {Text.quoted path}"

/-- The log file comes first, then the configuration, then the run. -/
def perform (options : RunOptions) (files : FileAccess) (polls : Nat) : CommandResult :=
  match options.logFile.filter fun path => !files.creatable path with
  | some path =>
    { exit := 1, stderr := some s!"Error: Failed to create log file at: {Text.quoted path}" }
  | none =>
    match options.loadConfig files with
    | .error report => { exit := 1, stderr := some report }
    | .ok config => Simulation.run options config polls

end RunOptions

namespace Request

def versionLine : String := "blelink-rs 0.1.0"

/-- A run may spend this many polls, which is more than it can. -/
def patience : Nat := 1000000000000000000

def perform (request : Request) (files : FileAccess) : CommandResult :=
  match request with
  | .misuse => { exit := 2 }
  | .help => { exit := 0 }
  | .version => { exit := 0, stdout := [versionLine] }
  | .run options => options.perform files patience

end Request

end BlePeripheral

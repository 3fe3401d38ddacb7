import BlePeripheral.CommandLine.Run

/-! The command. It finds out about the files that the options name, and prints the result. -/

namespace BlePeripheral

def usage : String :=
  "usage: [-c FILE] [-s STEPS] [-d PDUS] [-t] [--ticks-per-us TICKS] [-l FILE] [-v | -q] [-h] [-V]"

def textAt (path : Option String) : IO (Option String) := do
  match path with
  | none => return none
  | some path => try return some (← IO.FS.readFile path) catch _ => return none

def canCreate (path : Option String) : IO Bool := do
  match path with
  | none => return true
  | some path =>
    try
      IO.FS.writeFile path ""
      return true
    catch _ => return false

end BlePeripheral

open BlePeripheral in
def main (args : List String) : IO UInt32 := do
  let request := Request.ofArgs args
  let files : FileAccess ← match request with
    | .run options => do
      let creatable ← canCreate options.logFile
      let text ← textAt options.config
      pure { contents := fun _ => text, creatable := fun _ => creatable }
    | _ => pure { contents := fun _ => none, creatable := fun _ => false }
  let result := request.perform files
  for line in result.stdout do
    IO.println line
  if let some report := result.stderr then IO.eprintln report
  if let some cause := result.cause then IO.eprintln s!"\nCaused by:\n    {cause}"
  if result.exit = 2 then IO.eprintln usage
  if request = .help then IO.println usage
  return UInt32.ofNat result.exit

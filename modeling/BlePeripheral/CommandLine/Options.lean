import BlePeripheral.Notice

/-! The options of the command line. Arguments are read from left to right, and the first
that does not fit, or that asks for help or the version, decides. -/

namespace BlePeripheral

structure RunOptions where
  config : Option String := none
  steps : Option UInt32 := none
  dropAfter : Option UInt32 := none
  terminate : Bool := false
  ticksPerUs : Option UInt32 := none
  logFile : Option String := none
  verbose : Nat := 0
  quiet : Nat := 0
deriving DecidableEq, Repr

inductive Request where
  | run (options : RunOptions)
  | version
  | help
  | misuse
deriving DecidableEq, Repr

inductive OptionName where
  | config
  | steps
  | dropAfter
  | terminate
  | ticksPerUs
  | logFile
  | verbose
  | quiet
  | help
  | version
deriving DecidableEq, Repr

namespace OptionName

def all : List OptionName :=
  [config, steps, dropAfter, terminate, ticksPerUs, logFile, verbose, quiet, help, version]

def long : OptionName → String
  | config => "config"
  | steps => "steps"
  | dropAfter => "drop-after"
  | terminate => "terminate"
  | ticksPerUs => "ticks-per-us"
  | logFile => "log-file"
  | verbose => "verbose"
  | quiet => "quiet"
  | help => "help"
  | version => "version"

def short? : OptionName → Option Char
  | config => some 'c'
  | steps => some 's'
  | dropAfter => some 'd'
  | terminate => some 't'
  | ticksPerUs => none
  | logFile => some 'l'
  | verbose => some 'v'
  | quiet => some 'q'
  | help => some 'h'
  | version => some 'V'

def ofLong? (name : List Char) : Option OptionName := all.find? (·.long.toList = name)

def ofShort? (c : Char) : Option OptionName := all.find? (·.short? = some c)

def takesValue : OptionName → Bool
  | config | steps | dropAfter | ticksPerUs | logFile => true
  | terminate | verbose | quiet | help | version => false

end OptionName

/-- A count as an option's value: decimal digits that a sign may lead, of a value that fits
a word. -/
def countOfText? (text : String) : Option UInt32 := do
  let (negative, digits) := match text.toList with
    | '-' :: rest => (true, rest)
    | '+' :: rest => (false, rest)
    | cs => (false, cs)
  if digits.isEmpty || !digits.all Char.isDigit then none
  let n := digits.foldl (fun n c => 10 * n + (c.toNat - 48)) 0
  if n ≤ 4294967295 ∧ ¬ (negative ∧ n ≠ 0) then some (UInt32.ofNat n) else none

namespace RunOptions

def withValue? (o : RunOptions) (name : OptionName) (value : String) : Option RunOptions :=
  match name with
  | .config =>
    if o.config.isSome || value.isEmpty then none else some { o with config := some value }
  | .logFile =>
    if o.logFile.isSome || value.isEmpty then none else some { o with logFile := some value }
  | .steps =>
    if o.steps.isSome then none
    else (countOfText? value).map fun n => { o with steps := some n }
  | .dropAfter =>
    if o.dropAfter.isSome then none
    else (countOfText? value).map fun n => { o with dropAfter := some n }
  | .ticksPerUs =>
    if o.ticksPerUs.isSome then none
    else (countOfText? value).map fun n => { o with ticksPerUs := some n }
  | _ => none

/-- Each verbosity flag moves the threshold by one level from where it stands at first;
below the gravest level there is none. -/
def threshold (o : RunOptions) : Option Level :=
  match (3 + o.verbose) - o.quiet with
  | 0 => none
  | 1 => some .error
  | 2 => some .warn
  | 3 => some .info
  | 4 => some .debug
  | _ => some .trace

end RunOptions

/-- How far the reading of a command line has got. -/
inductive Scan where
  /-- The option without a value yet, if there is one, takes the next argument. -/
  | reading (options : RunOptions) (pending : Option OptionName)
  /-- Only arguments that are no options may follow. -/
  | closed (options : RunOptions)
  | decided (request : Request)

namespace Scan

def withValue (o : RunOptions) (name : OptionName) (value : List Char) : Scan :=
  match o.withValue? name (String.ofList value) with
  | some o => reading o none
  | none => decided .misuse

def flag (o : RunOptions) : OptionName → Scan
  | .terminate => if o.terminate then decided .misuse else reading { o with terminate := true } none
  | .verbose => reading { o with verbose := o.verbose + 1 } none
  | .quiet => reading { o with quiet := o.quiet + 1 } none
  | .help => decided .help
  | .version => decided .version
  | _ => decided .misuse

def long (o : RunOptions) (cs : List Char) : Scan :=
  let value := cs.dropWhile (· ≠ '=')
  match OptionName.ofLong? (cs.takeWhile (· ≠ '=')) with
  | none => decided .misuse
  | some name =>
    match value with
    | [] => if name.takesValue then reading o (some name) else flag o name
    | _ :: value => if name.takesValue then withValue o name value else decided .misuse

/-- Short options in a row. One that takes a value takes the rest of the row, less an equals
sign in front. -/
def short (o : RunOptions) : List Char → Scan
  | [] => reading o none
  | c :: rest =>
    match OptionName.ofShort? c with
    | none => decided .misuse
    | some name =>
      if name.takesValue then
        match rest with
        | [] => reading o (some name)
        | '=' :: value => withValue o name value
        | value => withValue o name value
      else
        match flag o name with
        | reading o _ => short o rest
        | scan => scan

def looksLikeOption : List Char → Bool
  | '-' :: _ :: _ => true
  | _ => false

def next (scan : Scan) (arg : String) : Scan :=
  match scan with
  | decided request => decided request
  | closed _ => decided .misuse
  | reading o (some name) =>
    if looksLikeOption arg.toList then decided .misuse else withValue o name arg.toList
  | reading o none =>
    match arg.toList with
    | ['-', '-'] => closed o
    | '-' :: '-' :: cs => long o cs
    | '-' :: c :: cs => short o (c :: cs)
    | _ => decided .misuse

/-- Louder and quieter exclude each other, which is noticed last. -/
def request : Scan → Request
  | decided request => request
  | reading _ (some _) => .misuse
  | reading o none | closed o => if o.verbose ≠ 0 ∧ o.quiet ≠ 0 then .misuse else .run o

end Scan

def Request.ofArgs (args : List String) : Request :=
  (args.foldl Scan.next (.reading {} none)).request

end BlePeripheral

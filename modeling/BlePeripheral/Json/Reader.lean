import BlePeripheral.Hex
import BlePeripheral.Json.Basic

/-! Reading JSON text. -/

namespace BlePeripheral.Json

def isBlank (c : Char) : Bool := c = ' ' || c = '\n' || c = '\t' || c = '\r'

def skipBlanks (cs : List Char) : List Char := cs.dropWhile isBlank

/-- A part of a string: a character, or an escaped 16-bit unit. -/
inductive StringPart where
  | char (c : Char)
  | unit (n : Nat)

def escaped? (c : Char) : Option Char :=
  if c = '"' ∨ c = '\\' ∨ c = '/' then some c
  else if c = 'b' then some (Char.ofNat 8)
  else if c = 'f' then some (Char.ofNat 12)
  else if c = 'n' then some '\n'
  else if c = 'r' then some '\r'
  else if c = 't' then some '\t'
  else none

def stringParts? : List Char → Option (List StringPart × List Char)
  | [] => none
  | '"' :: rest => some ([], rest)
  | '\\' :: 'u' :: a :: b :: c :: d :: rest => do
    let n ← Hex.number? [a, b, c, d]
    let (parts, rest) ← stringParts? rest
    return (.unit n :: parts, rest)
  | '\\' :: e :: rest => do
    let c ← escaped? e
    let (parts, rest) ← stringParts? rest
    return (.char c :: parts, rest)
  | c :: rest => do
    if c.toNat < 32 ∨ c = '\\' then none
    let (parts, rest) ← stringParts? rest
    return (.char c :: parts, rest)

def isHighSurrogate (n : Nat) : Bool := 0xD800 ≤ n && n ≤ 0xDBFF

def isLowSurrogate (n : Nat) : Bool := 0xDC00 ≤ n && n ≤ 0xDFFF

/-- Joins the units to characters; half a surrogate pair on its own has none. -/
def joinParts? : List StringPart → Option (List Char)
  | [] => some []
  | .char c :: rest => (joinParts? rest).map (c :: ·)
  | .unit high :: .unit low :: rest =>
    if isHighSurrogate high && isLowSurrogate low then
      (joinParts? rest).map
        (Char.ofNat (0x10000 + 0x400 * (high - 0xD800) + (low - 0xDC00)) :: ·)
    else if isHighSurrogate high || isLowSurrogate high then none
    else (joinParts? (.unit low :: rest)).map (Char.ofNat high :: ·)
  | .unit n :: rest =>
    if isHighSurrogate n || isLowSurrogate n then none
    else (joinParts? rest).map (Char.ofNat n :: ·)

def string? (cs : List Char) : Option (Option String × List Char) := do
  let (parts, rest) ← stringParts? cs
  return ((joinParts? parts).map String.ofList, rest)

def digits? (cs : List Char) : Option (List Char × List Char) :=
  match cs.takeWhile Char.isDigit with
  | [] => none
  | digits => some (digits, cs.dropWhile Char.isDigit)

def fraction? : List Char → Option (Bool × List Char)
  | '.' :: rest => do
    let (_, rest) ← digits? rest
    return (true, rest)
  | cs => some (false, cs)

def exponent? : List Char → Option (Bool × List Char)
  | e :: rest =>
    if e = 'e' ∨ e = 'E' then do
      let unsigned := match rest with
        | '+' :: r => r
        | '-' :: r => r
        | r => r
      let (_, rest) ← digits? unsigned
      return (true, rest)
    else some (false, e :: rest)
  | [] => some (false, [])

def decimal (digits : List Char) : Nat := digits.foldl (fun n c => 10 * n + (c.toNat - 48)) 0

/-- A number: no zeros lead it, and it is an integer if it has neither fraction nor exponent. -/
def number? (cs : List Char) : Option (Json × List Char) := do
  let (negative, cs) := match cs with
    | '-' :: rest => (true, rest)
    | _ => (false, cs)
  let (digits, rest) ← digits? cs
  if digits.head? = some '0' ∧ digits.length ≠ 1 then none
  let (hasFraction, rest) ← fraction? rest
  let (hasExponent, rest) ← exponent? rest
  let n := decimal digits
  let json :=
    if hasFraction || hasExponent || (negative && n = 0) then Json.number
    else .integer (if negative then -(n : Int) else n)
  return (json, rest)

def scalar? (cs : List Char) : Option (Json × List Char) :=
  if "null".toList.isPrefixOf cs then some (.null, cs.drop 4)
  else if "true".toList.isPrefixOf cs then some (.bool true, cs.drop 4)
  else if "false".toList.isPrefixOf cs then some (.bool false, cs.drop 5)
  else number? cs

def member? (cs : List Char) : Option (Option String × List Char) :=
  match skipBlanks cs with
  | '"' :: rest => do
    let (key, rest) ← string? rest
    match skipBlanks rest with
    | ':' :: rest => some (key, rest)
    | _ => none
  | _ => none

-- Each function gives the text behind what it read, or none when the text broke in it. A call
-- passes on one unit of fuel less, and of two calls in a row one consumes a character.
mutual

def value : Nat → List Char → Json × Option (List Char)
  | 0, _ => (.fault, none)
  | fuel + 1, cs =>
    match skipBlanks cs with
    | '[' :: rest =>
      match skipBlanks rest with
      | ']' :: rest => (.array [], some rest)
      | rest =>
        let (found, rest) := items fuel rest
        (.array found, rest)
    | '{' :: rest =>
      match skipBlanks rest with
      | '}' :: rest => (.object [], some rest)
      | rest =>
        let (found, rest) := members fuel rest
        (.object found, rest)
    | '"' :: rest =>
      match string? rest with
      | some (text, rest) => (.string text, some rest)
      | none => (.fault, none)
    | cs =>
      match scalar? cs with
      | some (json, rest) => (json, some rest)
      | none => (.fault, none)

def items : Nat → List Char → List Json × Option (List Char)
  | 0, _ => ([.fault], none)
  | fuel + 1, cs =>
    match value fuel cs with
    | (json, none) => ([json, .fault], none)
    | (json, some rest) =>
      match skipBlanks rest with
      | ',' :: rest =>
        let (found, rest) := items fuel rest
        (json :: found, rest)
      | ']' :: rest => ([json], some rest)
      | _ => ([json, .fault], none)

def members : Nat → List Char → List (Option String × Json) × Option (List Char)
  | 0, _ => ([(none, .fault)], none)
  | fuel + 1, cs =>
    match member? cs with
    | none => ([(none, .fault)], none)
    | some (key, rest) =>
      match value fuel rest with
      | (json, none) => ([(key, json), (none, .fault)], none)
      | (json, some rest) =>
        match skipBlanks rest with
        | ',' :: rest =>
          let (found, rest) := members fuel rest
          ((key, json) :: found, rest)
        | '}' :: rest => ([(key, json)], some rest)
        | _ => ([(key, json), (none, .fault)], none)

end

/-- The value of a text, and whether nothing but blanks stands behind it. -/
def ofText (text : String) : Json × Bool :=
  let cs := text.toList
  match value (2 * cs.length + 2) cs with
  | (json, some rest) => (json, (skipBlanks rest).isEmpty)
  | (json, none) => (json, false)

end BlePeripheral.Json

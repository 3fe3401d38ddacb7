import BlePeripheral.Hex
import BlePeripheral.Json.Basic

/-! Writing JSON text, without blanks. -/

namespace BlePeripheral.Json

def escapeLetter? (c : Char) : Option Char :=
  if c = '"' ∨ c = '\\' then some c
  else if c = Char.ofNat 8 then some 'b'
  else if c = Char.ofNat 12 then some 'f'
  else if c = '\n' then some 'n'
  else if c = '\r' then some 'r'
  else if c = '\t' then some 't'
  else none

def escapedChar (c : Char) : String :=
  match escapeLetter? c with
  | some letter => String.ofList ['\\', letter]
  | none => if c.toNat < 32 then "\\u" ++ Hex.padded 4 c.toNat else c.toString

def quoted (s : String) : String := "\"" ++ String.join (s.toList.map escapedChar) ++ "\""

mutual

/-- The text of a value. What has no text of its own is written as a null. -/
def render : Json → String
  | .null | .number | .fault | .string none => "null"
  | .bool b => if b then "true" else "false"
  | .integer n => toString n
  | .string (some s) => quoted s
  | .array items => "[" ++ ",".intercalate (renderItems items) ++ "]"
  | .object members => "\x7b" ++ ",".intercalate (renderMembers members) ++ "\x7d"

def renderItems : List Json → List String
  | [] => []
  | item :: rest => render item :: renderItems rest

def renderMembers : List (Option String × Json) → List String
  | [] => []
  | (key, value) :: rest => (quoted (key.getD "") ++ ":" ++ render value) :: renderMembers rest

end

end BlePeripheral.Json

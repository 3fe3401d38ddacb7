import BlePeripheral.Bytes

/-! Hexadecimal text: lower case when written, either case when read. -/

namespace BlePeripheral.Hex

def digit (n : Nat) : Char := if n < 10 then Char.ofNat (48 + n) else Char.ofNat (87 + n)

def value? (c : Char) : Option Nat :=
  if '0' ≤ c ∧ c ≤ '9' then some (c.toNat - 48)
  else if 'a' ≤ c ∧ c ≤ 'f' then some (c.toNat - 87)
  else if 'A' ≤ c ∧ c ≤ 'F' then some (c.toNat - 55)
  else none

def pair (b : UInt8) : List Char := [digit (b.toNat / 16), digit (b.toNat % 16)]

def ofBytes (b : Bytes) : String := String.ofList (b.flatMap pair)

/-- Reads two digits a byte; an odd digit or a foreign character refuses the whole text. -/
def bytes? : List Char → Option Bytes
  | [] => some []
  | [_] => none
  | hi :: lo :: rest => do
    let h ← value? hi
    let l ← value? lo
    return UInt8.ofNat (16 * h + l) :: (← bytes? rest)

def number? : List Char → Option Nat
  | [] => none
  | cs => cs.foldlM (fun n c => (value? c).map (16 * n + ·)) 0

def padded (width n : Nat) : String :=
  let digits := Nat.toDigits 16 n
  String.ofList (List.replicate (width - digits.length) '0' ++ digits)

def word (n : UInt32) : String := "0x" ++ padded 8 n.toNat

end BlePeripheral.Hex

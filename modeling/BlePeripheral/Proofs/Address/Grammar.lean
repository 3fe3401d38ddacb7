import Mathlib.Data.List.Forall2
import Mathlib.Data.Nat.Digits.Defs
import BlePeripheral.Address.Text

/-! Address text. Main statement: the texts that are read are those of six groups of hexadecimal
digits with a colon between, which stand for the bytes of the address, most significant first; what
is written is one of them, and what is read of it is the address that it was written from. -/

namespace BlePeripheral

namespace Hex

def lowerDigits : List Char := "0123456789abcdef".toList

def upperDigits : List Char := "0123456789ABCDEF".toList

def IsDigit (c : Char) (n : Nat) : Prop := lowerDigits[n]? = some c ∨ upperDigits[n]? = some c

instance (c : Char) (n : Nat) : Decidable (IsDigit c n) := inferInstanceAs (Decidable (_ ∨ _))

/-- The run of digits stands for a number. There is at least one digit, and the first counts most. -/
def Denotes (cs : List Char) (n : Nat) : Prop :=
  cs ≠ [] ∧ ∃ values, List.Forall₂ IsDigit cs values ∧ n = Nat.ofDigits 16 values.reverse

theorem toNat_lt_of_value? {c : Char} {n : Nat} (h : value? c = some n) : c.toNat < 128 := by
  have most : ∀ {d : Char}, c ≤ d → d.toNat < 128 → c.toNat < 128 :=
    fun le small => Nat.lt_of_le_of_lt le small
  unfold value? at h
  split at h
  next range => exact most range.2 (by decide)
  next =>
    split at h
    next range => exact most range.2 (by decide)
    next =>
      split at h
      next range => exact most range.2 (by decide)
      next => cases h

theorem value?_eq_some {c : Char} {n : Nat} : value? c = some n ↔ IsDigit c n := by
  constructor
  · intro h
    -- There are digits in ASCII only, so the few characters there can be looked through.
    have all : ∀ k < 128, (value? (Char.ofNat k)).all (fun n => IsDigit (Char.ofNat k) n) = true := by
      decide
    have digit := all c.toNat (toNat_lt_of_value? h)
    rw [Char.ofNat_toNat, h] at digit
    exact of_decide_eq_true digit
  · have lower : ∀ m : Fin 16, value? lowerDigits[m] = some m.val := by decide
    have upper : ∀ m : Fin 16, value? upperDigits[m] = some m.val := by decide
    rintro (h | h) <;> obtain ⟨bound, rfl⟩ := List.getElem?_eq_some_iff.mp h
    · exact lower ⟨n, bound⟩
    · exact upper ⟨n, bound⟩

theorem foldlM_eq_some {cs : List Char} {first n : Nat} :
    cs.foldlM (fun n c => (value? c).map (16 * n + ·)) first = some n ↔
      ∃ values, List.Forall₂ IsDigit cs values ∧
        n = Nat.ofDigits 16 values.reverse + 16 ^ values.length * first := by
  induction cs generalizing first with
  | nil => simp [eq_comm]
  | cons c cs ih =>
    rw [List.foldlM_cons, Option.bind_eq_bind, Option.bind_map, Option.bind_eq_some_iff]
    simp only [value?_eq_some, Function.comp_apply, ih, List.forall₂_cons_left_iff]
    constructor
    · rintro ⟨value, digit, values, digits, rfl⟩
      refine ⟨value :: values, ⟨value, values, digit, digits, rfl⟩, ?_⟩
      rw [Nat.ofDigits_reverse_cons, List.length_cons, Nat.pow_succ]
      ring
    · rintro ⟨_, ⟨value, values, digit, digits, rfl⟩, rfl⟩
      refine ⟨value, digit, values, digits, ?_⟩
      rw [Nat.ofDigits_reverse_cons, List.length_cons, Nat.pow_succ]
      ring

theorem number?_eq_some {cs : List Char} {n : Nat} : number? cs = some n ↔ Denotes cs n := by
  cases cs with
  | nil => simp [number?, Denotes]
  | cons c cs =>
    rw [number?, foldlM_eq_some]
    · simp [Denotes]
    · nofun

end Hex

namespace DeviceAddress

def IsGroup (part : List Char) (n : Nat) : Prop :=
  ∃ digits, (part = digits ∨ part = '+' :: digits) ∧ Hex.Denotes digits n

theorem not_denotes_plus (cs : List Char) (n : Nat) : ¬Hex.Denotes ('+' :: cs) n := by
  rintro ⟨-, values, digits, -⟩
  obtain ⟨value, -, digit, -⟩ := List.forall₂_cons_left_iff.mp digits
  have none := Hex.value?_eq_some.mpr digit
  cases none

theorem isGroup_plus {rest : List Char} {n : Nat} :
    IsGroup ('+' :: rest) n ↔ Hex.Denotes rest n := by
  constructor
  · rintro ⟨digits, rfl | same, denotes⟩
    · exact absurd denotes (not_denotes_plus rest n)
    · cases same
      exact denotes
  · exact fun denotes => ⟨rest, .inr rfl, denotes⟩

theorem isGroup_of_ne {part : List Char} {n : Nat} (bare : ∀ rest, part ≠ '+' :: rest) :
    IsGroup part n ↔ Hex.Denotes part n := by
  constructor
  · rintro ⟨digits, rfl | plus, denotes⟩
    · exact denotes
    · exact absurd plus (bare digits)
  · exact fun denotes => ⟨part, .inl rfl, denotes⟩

theorem byte_eq_some {found : Option Nat} {b : UInt8} :
    (found.bind fun n => if n ≤ 255 then some (UInt8.ofNat n) else none) = some b ↔
      found = some b.toNat := by
  have fits := b.toNat_lt
  rw [Option.bind_eq_some_iff]
  constructor
  · rintro ⟨n, rfl, byte⟩
    obtain ⟨small, same⟩ := Option.ite_none_right_eq_some.mp byte
    cases same
    rw [UInt8.toNat_ofNat', Nat.mod_eq_of_lt (by omega)]
  · rintro rfl
    exact ⟨b.toNat, rfl, by rw [if_pos (by omega), UInt8.ofNat_toNat]⟩

theorem groupByte?_eq_some {part : List Char} {b : UInt8} :
    groupByte? part = some b ↔ IsGroup part b.toNat := by
  unfold groupByte?
  split
  next rest => rw [isGroup_plus, ← Hex.number?_eq_some]; exact byte_eq_some
  next bare => rw [isGroup_of_ne (fun rest => bare rest), ← Hex.number?_eq_some]; exact byte_eq_some

theorem mapM_groupByte?_eq_some {parts : List (List Char)} {bytes : Bytes} :
    parts.mapM groupByte? = some bytes ↔
      List.Forall₂ (fun part b => IsGroup part b.toNat) parts bytes := by
  induction parts generalizing bytes with
  | nil => simp [eq_comm]
  | cons part parts ih =>
    simp only [List.mapM_cons, Option.bind_eq_bind, Option.pure_def, Option.bind_eq_some_iff,
      groupByte?_eq_some, ih, List.forall₂_cons_left_iff, Option.some.injEq]
    constructor
    · rintro ⟨b, group, bytes, groups, rfl⟩
      exact ⟨b, bytes, group, groups, rfl⟩
    · rintro ⟨b, bytes, group, groups, rfl⟩
      exact ⟨b, group, bytes, groups, rfl⟩

theorem groups_eq_splitOn (cs : List Char) : groups cs = cs.splitOn ':' := by
  induction cs with
  | nil => rfl
  | cons c cs ih =>
    rw [groups, ih, List.splitOn_cons_eq_if_modifyHead]
    by_cases colon : c = ':'
    · simp [colon]
    · rw [if_neg colon, if_neg (by simpa using colon)]
      cases parts : cs.splitOn ':' with
      | nil => exact absurd parts (List.splitOn_ne_nil _ _)
      | cons part parts => rfl

theorem ofText?_eq_some {text : String} {a : DeviceAddress} :
    ofText? text = some a ↔ List.Forall₂ (fun part b => IsGroup part b.toNat)
      (text.toList.splitOn ':') a.toAir.reverse := by
  rw [ofText?, groups_eq_splitOn, Option.bind_eq_bind, Option.bind_eq_some_iff]
  simp only [mapM_groupByte?_eq_some, Option.ite_none_right_eq_some]
  constructor
  · rintro ⟨bytes, groups, six, same⟩
    cases same
    rwa [toAir_ofAir (bytes.length_reverse.trans six), List.reverse_reverse]
  · intro groups
    refine ⟨_, groups, by simp [airSize], ?_⟩
    rw [List.reverse_reverse, ofAir_toAir]

theorem group_of_ofText? {text : String} {a : DeviceAddress} (h : ofText? text = some a) {i : Nat}
    {part : List Char} (there : (text.toList.splitOn ':')[i]? = some part) :
    ∃ b, a.toAir[5 - i]? = some b ∧ IsGroup part b.toNat := by
  obtain ⟨length, groups⟩ := List.forall₂_iff_get.mp (ofText?_eq_some.mp h)
  obtain ⟨bound, rfl⟩ := List.getElem?_eq_some_iff.mp there
  have bound' : i < a.toAir.reverse.length := length ▸ bound
  refine ⟨a.toAir.reverse[i], ?_, groups i bound bound'⟩
  have reversed := List.getElem?_reverse (l := a.toAir) (i := i) (by simpa using bound')
  rw [length_toAir] at reversed
  exact reversed.symm.trans (List.getElem?_eq_getElem bound')

/-- Between its colons the text has six groups, each of a number that fits a byte. -/
def IsAddress (text : String) : Prop :=
  (text.toList.splitOn ':').length = 6 ∧ ∀ part ∈ text.toList.splitOn ':', ∃ n ≤ 255, IsGroup part n

theorem exists_bytes {parts : List (List Char)} (groups : ∀ part ∈ parts, ∃ n ≤ 255, IsGroup part n) :
    ∃ bytes : Bytes, List.Forall₂ (fun part b => IsGroup part b.toNat) parts bytes := by
  induction parts with
  | nil => exact ⟨[], .nil⟩
  | cons part parts ih =>
    obtain ⟨⟨n, fits, group⟩, others⟩ := List.forall_mem_cons.mp groups
    obtain ⟨bytes, rest⟩ := ih others
    have same : (UInt8.ofNat n).toNat = n := by
      rw [UInt8.toNat_ofNat']
      omega
    exact ⟨UInt8.ofNat n :: bytes, .cons (same.symm ▸ group) rest⟩

theorem exists_ofText?_iff {text : String} : (∃ a, ofText? text = some a) ↔ IsAddress text := by
  constructor
  · rintro ⟨a, h⟩
    refine ⟨?_, ?_⟩
    · rw [(ofText?_eq_some.mp h).length_eq, List.length_reverse, length_toAir]
    · intro part member
      obtain ⟨i, there⟩ := List.mem_iff_getElem?.mp member
      obtain ⟨b, -, group⟩ := group_of_ofText? h there
      exact ⟨b.toNat, Nat.le_of_lt_succ b.toNat_lt, group⟩
  · rintro ⟨six, groups⟩
    obtain ⟨bytes, rest⟩ := exists_bytes groups
    have length : bytes.reverse.length = 6 := by rw [List.length_reverse, ← rest.length_eq, six]
    refine ⟨ofAir bytes.reverse, ofText?_eq_some.mpr ?_⟩
    rwa [toAir_ofAir length, List.reverse_reverse]

theorem ofText_eq_ok {text : String} {a : DeviceAddress} :
    ofText text = .ok a ↔ ofText? text = some a := by
  unfold ofText
  cases ofText? text <;> simp

theorem ofText_eq_error {text : String} {e : LinkError} :
    ofText text = .error e ↔ e = .invalidAddress text ∧ ¬IsAddress text := by
  rw [← exists_ofText?_iff]
  unfold ofText
  cases ofText? text <;> simp [eq_comm]

def IsPlain (text : String) : Prop :=
  (text.toList.splitOn ':').length = 6 ∧
    ∀ part ∈ text.toList.splitOn ':', part.length = 2 ∧ ∀ c ∈ part, c ∈ Hex.lowerDigits

theorem digits_of_byte (b : UInt8) : Hex.lowerDigits[b.toNat / 16]? = some (Hex.digit (b.toNat / 16)) ∧
    Hex.lowerDigits[b.toNat % 16]? = some (Hex.digit (b.toNat % 16)) := by
  have all : ∀ n : Fin 16, Hex.lowerDigits[n.val]? = some (Hex.digit n.val) := by decide
  have fits := b.toNat_lt
  exact ⟨all ⟨b.toNat / 16, by omega⟩, all ⟨b.toNat % 16, by omega⟩⟩

theorem isGroup_pair (b : UInt8) : IsGroup (Hex.pair b) b.toNat := by
  obtain ⟨high, low⟩ := digits_of_byte b
  refine ⟨_, .inl rfl, List.cons_ne_nil _ _, [b.toNat / 16, b.toNat % 16],
    .cons (.inl high) (.cons (.inl low) .nil), ?_⟩
  simp [Nat.ofDigits_cons, Nat.mod_add_div]

theorem mem_lowerDigits_of_mem_pair {b : UInt8} {c : Char} (h : c ∈ Hex.pair b) :
    c ∈ Hex.lowerDigits := by
  obtain ⟨high, low⟩ := digits_of_byte b
  obtain rfl | rfl := List.mem_pair.mp h
  · exact List.mem_of_getElem? high
  · exact List.mem_of_getElem? low

/-- No digit is a colon, so the groups of a text are those that it is written with. -/
theorem splitOn_text (a : DeviceAddress) :
    a.text.toList.splitOn ':' = a.toAir.reverse.map Hex.pair := by
  have noColon : ∀ part ∈ a.toAir.reverse.map Hex.pair, ':' ∉ part := by
    intro part member colon
    obtain ⟨b, -, rfl⟩ := List.mem_map.mp member
    exact absurd (mem_lowerDigits_of_mem_pair colon) (by decide)
  have some : a.toAir.reverse.map Hex.pair ≠ [] := by
    rw [← List.length_pos_iff, List.length_map, List.length_reverse, length_toAir]
    decide
  rw [text, String.toList_intercalate, List.map_map]
  simp only [Function.comp_def, String.toList_ofList]
  exact List.splitOn_intercalate ':' noColon some

theorem isPlain_text (a : DeviceAddress) : IsPlain a.text := by
  rw [IsPlain, splitOn_text]
  refine ⟨by simp, ?_⟩
  intro part member
  obtain ⟨b, -, rfl⟩ := List.mem_map.mp member
  exact ⟨rfl, fun c => mem_lowerDigits_of_mem_pair⟩

theorem ofText?_text (a : DeviceAddress) : ofText? a.text = some a := by
  rw [ofText?_eq_some, splitOn_text, List.forall₂_map_left_iff]
  exact List.forall₂_same.mpr fun b _ => isGroup_pair b

theorem toNat_toUInt64 (a : DeviceAddress) : a.toUInt64.toNat = a.value.toNat := by
  have fits := a.value.isLt
  rw [toUInt64, UInt64.toNat_ofNat']
  omega

theorem ofUInt64_toUInt64 (a : DeviceAddress) : ofUInt64 a.toUInt64 = a := by
  rw [ofUInt64, toNat_toUInt64, BitVec.ofNat_toNat, BitVec.setWidth_eq]

theorem toNat_toUInt64_ofUInt64 (v : UInt64) : (ofUInt64 v).toUInt64.toNat = v.toNat % 2 ^ 48 := by
  rw [toNat_toUInt64, ofUInt64, BitVec.toNat_ofNat]

theorem toNat_toUInt64_eq_ofDigits (a : DeviceAddress) :
    a.toUInt64.toNat = Nat.ofDigits 256 (a.toAir.map UInt8.toNat) := by
  have digits : ∀ b : Bytes, Nat.ofDigits 256 (b.map UInt8.toNat) = Bytes.toNatLE b := by
    intro b
    induction b with
    | nil => rfl
    | cons x rest ih => rw [List.map_cons, Nat.ofDigits_cons, ih]; rfl
  rw [digits, toAir, Bytes.toNatLE_ofNatLE, toNat_toUInt64]
  exact (Nat.mod_eq_of_lt a.value.isLt).symm

/-- A text is an address if it has six groups, and then each of them stands for its byte; any other
text is reported as it is. What is written is read back, and so is the number of an address, from
whatever number of 64 bits that has been made. -/
theorem address_text_exact :
    (∀ text : String, ((∃ a, ofText text = .ok a) ↔ IsAddress text) ∧
      (∀ a, ofText text = .ok a → ∀ i part, (text.toList.splitOn ':')[i]? = some part →
        ∃ b, a.toAir[5 - i]? = some b ∧ IsGroup part b.toNat) ∧
      ∀ e, ofText text = .error e ↔ e = .invalidAddress text ∧ ¬IsAddress text) ∧
    (∀ a : DeviceAddress, ofText a.text = .ok a ∧ IsPlain a.text ∧ ofUInt64 a.toUInt64 = a ∧
      a.toUInt64.toNat = Nat.ofDigits 256 (a.toAir.map UInt8.toNat)) ∧
    ∀ v : UInt64, (ofUInt64 v).toUInt64.toNat = v.toNat % 2 ^ 48 := by
  refine ⟨?_, ?_, toNat_toUInt64_ofUInt64⟩
  · intro text
    simp only [ofText_eq_ok]
    exact ⟨exists_ofText?_iff, fun a h i part => group_of_ofText? h, fun e => ofText_eq_error⟩
  · intro a
    exact ⟨ofText_eq_ok.mpr a.ofText?_text, a.isPlain_text, a.ofUInt64_toUInt64,
      a.toNat_toUInt64_eq_ofDigits⟩

end DeviceAddress

end BlePeripheral

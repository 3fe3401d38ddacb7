import BlePeripheral.Bytes
import BlePeripheral.Pdu.Kind

/-! The two-byte headers. Both bytes are held as they were received, so reserved bits survive
decoding, and a setter changes the bits of its own field only. -/

namespace BlePeripheral

/-- The bits of `b` under `mask` replaced by those of `value`. -/
def putBits (b mask value : UInt8) : UInt8 := (b &&& ~~~mask) ||| (value &&& mask)

def putFlag (b mask : UInt8) (on : Bool) : UInt8 := putBits b mask (if on then 0xFF else 0)

def hasFlag (b mask : UInt8) : Bool := b &&& mask != 0

theorem putBits_and (b mask value other : UInt8) :
    putBits b mask value &&& other =
      (b &&& (~~~mask &&& other)) ||| (value &&& (mask &&& other)) := by
  apply UInt8.toBitVec_inj.mp
  apply BitVec.eq_of_getLsbD_eq
  intro i _
  simp only [putBits, UInt8.toBitVec_and, UInt8.toBitVec_or, BitVec.getLsbD_and,
    BitVec.getLsbD_or, Bool.and_or_distrib_right, Bool.and_assoc]

theorem putBits_and_self (b mask value : UInt8) : putBits b mask value &&& mask = value &&& mask := by
  have outside : ~~~mask &&& mask = 0 := by
    rw [UInt8.and_comm]
    exact UInt8.and_not_self
  rw [putBits_and, outside, UInt8.and_zero, UInt8.zero_or, UInt8.and_self]

theorem putBits_and_of_disjoint (b value : UInt8) {mask other : UInt8}
    (h : mask &&& other = 0) (h' : ~~~mask &&& other = other) :
    putBits b mask value &&& other = b &&& other := by
  rw [putBits_and, h, h', UInt8.and_zero, UInt8.or_zero]

theorem hasFlag_putFlag (b mask : UInt8) (on : Bool) (h : mask ≠ 0) :
    hasFlag (putFlag b mask on) mask = on := by
  rw [hasFlag, putFlag, putBits_and_self]
  cases on with
  | false => simp
  | true =>
    have ones : (255 : UInt8) = -1 := rfl
    simp [ones, h]

theorem hasFlag_putFlag_of_disjoint (b mask other : UInt8) (on : Bool)
    (h : mask &&& other = 0) (h' : ~~~mask &&& other = other) :
    hasFlag (putFlag b mask on) other = hasFlag b other := by
  rw [hasFlag, putFlag, putBits_and_of_disjoint b _ h h', hasFlag]

theorem putBits_zero (mask value : UInt8) : putBits 0 mask value = value &&& mask := by
  rw [putBits, UInt8.zero_and, UInt8.zero_or]

section

variable {mask : UInt8} {i : Nat} (one : mask.toBitVec = BitVec.twoPow 8 i)

include one

theorem and_eq_mask_of_hasFlag {b : UInt8} (set : hasFlag b mask = true) : b &&& mask = mask := by
  have bit : (b &&& mask).toBitVec = if b.toBitVec.getLsbD i then mask.toBitVec else 0 := by
    rw [UInt8.toBitVec_and, one, BitVec.and_twoPow]
    rfl
  split at bit
  · exact UInt8.toBitVec_inj.mp bit
  · have clear : b &&& mask = 0 := UInt8.toBitVec_inj.mp bit
    simp [hasFlag, clear] at set

theorem putFlag_hasFlag (b other : UInt8) :
    putFlag b mask (hasFlag other mask) = putBits b mask other := by
  rw [putFlag, putBits, putBits]
  cases set : hasFlag other mask with
  | true =>
    have ones : (255 : UInt8) = -1 := rfl
    rw [if_pos rfl, and_eq_mask_of_hasFlag one set, ones, UInt8.neg_one_and]
  | false =>
    have clear : other &&& mask = 0 := by simpa [hasFlag] using set
    rw [if_neg Bool.false_ne_true, clear, UInt8.zero_and]

end

/-- From the low bit up: type (4), reserved (1), ChSel, TxAdd, RxAdd, then length (6) and
reserved (2). -/
structure AdvHeader where
  first : UInt8 := 0
  second : UInt8 := 0
deriving DecidableEq, Repr

namespace AdvHeader

inductive Field where
  | pduType
  | length
  | chSel
  | txAdd
  | rxAdd
deriving DecidableEq, Repr

def bytes (h : AdvHeader) : Bytes := [h.first, h.second]

def typeCode (h : AdvHeader) : UInt8 := h.first &&& 0x0F

def pduType (h : AdvHeader) : PduType := .ofCode h.typeCode

def chSel (h : AdvHeader) : Bool := hasFlag h.first 0x20

def txAdd (h : AdvHeader) : Bool := hasFlag h.first 0x40

def rxAdd (h : AdvHeader) : Bool := hasFlag h.first 0x80

def length (h : AdvHeader) : UInt8 := h.second &&& 0x3F

def withTypeCode (h : AdvHeader) (code : UInt8) : AdvHeader :=
  { h with first := putBits h.first 0x0F code }

def withChSel (h : AdvHeader) (on : Bool) : AdvHeader := { h with first := putFlag h.first 0x20 on }

def withTxAdd (h : AdvHeader) (on : Bool) : AdvHeader := { h with first := putFlag h.first 0x40 on }

def withRxAdd (h : AdvHeader) (on : Bool) : AdvHeader := { h with first := putFlag h.first 0x80 on }

def withLength (h : AdvHeader) (n : UInt8) : AdvHeader :=
  { h with second := putBits h.second 0x3F n }

/-- Refuses a value too large for the field; a flag is set by any value but zero. -/
def set? (h : AdvHeader) (field : Field) (value : UInt8) : Option AdvHeader :=
  match field with
  | .pduType => if value < 16 then some (h.withTypeCode value) else none
  | .length => if value < 64 then some (h.withLength value) else none
  | .chSel => some (h.withChSel (value != 0))
  | .txAdd => some (h.withTxAdd (value != 0))
  | .rxAdd => some (h.withRxAdd (value != 0))

section

variable (h : AdvHeader) (code n : UInt8) (on : Bool)

@[simp] theorem typeCode_withTypeCode : (h.withTypeCode code).typeCode = code &&& 0x0F :=
  putBits_and_self h.first 0x0F code

@[simp] theorem typeCode_withTxAdd : (h.withTxAdd on).typeCode = h.typeCode :=
  putBits_and_of_disjoint h.first _ (by decide) (by decide)

@[simp] theorem typeCode_withLength : (h.withLength n).typeCode = h.typeCode := rfl

@[simp] theorem chSel_withTypeCode : (h.withTypeCode code).chSel = h.chSel := by
  rw [chSel, withTypeCode, hasFlag, putBits_and_of_disjoint _ _ (by decide) (by decide), chSel, hasFlag]

@[simp] theorem chSel_withTxAdd : (h.withTxAdd on).chSel = h.chSel :=
  hasFlag_putFlag_of_disjoint h.first 0x40 0x20 on (by decide) (by decide)

@[simp] theorem chSel_withLength : (h.withLength n).chSel = h.chSel := rfl

@[simp] theorem rxAdd_withTypeCode : (h.withTypeCode code).rxAdd = h.rxAdd := by
  rw [rxAdd, withTypeCode, hasFlag, putBits_and_of_disjoint _ _ (by decide) (by decide), rxAdd, hasFlag]

@[simp] theorem rxAdd_withTxAdd : (h.withTxAdd on).rxAdd = h.rxAdd :=
  hasFlag_putFlag_of_disjoint h.first 0x40 0x80 on (by decide) (by decide)

@[simp] theorem rxAdd_withLength : (h.withLength n).rxAdd = h.rxAdd := rfl

@[simp] theorem txAdd_withTxAdd : (h.withTxAdd on).txAdd = on :=
  hasFlag_putFlag h.first 0x40 on (by decide)

@[simp] theorem txAdd_withLength : (h.withLength n).txAdd = h.txAdd := rfl

@[simp] theorem length_withLength : (h.withLength n).length = n &&& 0x3F :=
  putBits_and_self h.second 0x3F n

end

end AdvHeader

/-- From the low bit up: LLID (2), NESN, SN, MD, reserved (3), then length (8). -/
structure DataHeader where
  first : UInt8 := 0
  second : UInt8 := 0
deriving DecidableEq, Repr

namespace DataHeader

inductive Field where
  | llid
  | length
  | nesn
  | sn
  | md
deriving DecidableEq, Repr

def bytes (h : DataHeader) : Bytes := [h.first, h.second]

def llidCode (h : DataHeader) : UInt8 := h.first &&& 0x03

def llid (h : DataHeader) : Llid := .ofCode h.llidCode

def nesn (h : DataHeader) : Bool := hasFlag h.first 0x04

def sn (h : DataHeader) : Bool := hasFlag h.first 0x08

def md (h : DataHeader) : Bool := hasFlag h.first 0x10

def length (h : DataHeader) : UInt8 := h.second

def withLlidCode (h : DataHeader) (code : UInt8) : DataHeader :=
  { h with first := putBits h.first 0x03 code }

def withNesn (h : DataHeader) (on : Bool) : DataHeader :=
  { h with first := putFlag h.first 0x04 on }

def withSn (h : DataHeader) (on : Bool) : DataHeader := { h with first := putFlag h.first 0x08 on }

def withMd (h : DataHeader) (on : Bool) : DataHeader := { h with first := putFlag h.first 0x10 on }

def withLength (h : DataHeader) (n : UInt8) : DataHeader := { h with second := n }

def set? (h : DataHeader) (field : Field) (value : UInt8) : Option DataHeader :=
  match field with
  | .llid => if value < 4 then some (h.withLlidCode value) else none
  | .length => some (h.withLength value)
  | .nesn => some (h.withNesn (value != 0))
  | .sn => some (h.withSn (value != 0))
  | .md => some (h.withMd (value != 0))

/-- The header of a received buffer, whatever its length byte says. -/
def ofFrame? : Bytes → Option DataHeader
  | first :: second :: _ => some ⟨first, second⟩
  | _ => none

theorem withLength_length (h : DataHeader) : h.withLength h.length = h := rfl

@[simp] theorem sn_withSn (h : DataHeader) (on : Bool) : (h.withSn on).sn = on :=
  hasFlag_putFlag h.first 0x08 on (by decide)

@[simp] theorem nesn_withNesn (h : DataHeader) (on : Bool) : (h.withNesn on).nesn = on :=
  hasFlag_putFlag h.first 0x04 on (by decide)

@[simp] theorem sn_withNesn (h : DataHeader) (on : Bool) : (h.withNesn on).sn = h.sn :=
  hasFlag_putFlag_of_disjoint h.first 0x04 0x08 on (by decide) (by decide)

end DataHeader

end BlePeripheral

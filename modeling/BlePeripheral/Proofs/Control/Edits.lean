import BlePeripheral.Control.Table

/-! Which handler a control table has for a code after handlers have been registered and
unregistered, in any order and whether an opcode was given by name or by code: the one that the last
edit of the code has left. -/

namespace BlePeripheral

inductive ControlEdit where
  | register (opcode : ControlOpcode) (handler : ControlHandler)
  | unregister (opcode : ControlOpcode)

namespace ControlEdit

def code : ControlEdit → UInt8
  | register opcode _ | unregister opcode => opcode.code

def handler? : ControlEdit → Option ControlHandler
  | register _ handler => some handler
  | unregister _ => none

def apply (table : ControlTable) : ControlEdit → ControlTable
  | register opcode handler => table.register opcode handler
  | unregister opcode => table.unregister opcode

theorem handler?_apply (table : ControlTable) (edit : ControlEdit) (code : UInt8) :
    (apply table edit).handler? code =
      if edit.code = code then edit.handler? else table.handler? code := by
  cases edit with
  | register opcode handler =>
    simp only [apply, ControlTable.register, ControlEdit.code, handler?, eq_comm]
  | unregister opcode =>
    simp only [apply, ControlTable.unregister, ControlEdit.code, handler?, eq_comm]

def last? (edits : List ControlEdit) (code : UInt8) : Option ControlEdit :=
  edits.reverse.find? fun edit => edit.code = code

end ControlEdit

namespace ControlTable

def ofEdits (edits : List ControlEdit) : ControlTable := edits.foldl ControlEdit.apply {}

/-- An edit replaces what the edits of the same code before it have left. -/
theorem handler?_ofEdits (edits : List ControlEdit) (code : UInt8) :
    (ofEdits edits).handler? code = (ControlEdit.last? edits code).bind ControlEdit.handler? := by
  unfold ofEdits ControlEdit.last?
  rw [← List.foldr_reverse]
  induction edits.reverse with
  | nil => rfl
  | cons edit before ih =>
    rw [List.foldr_cons, ControlEdit.handler?_apply, List.find?_cons, ih]
    by_cases same : edit.code = code
    · simp [same]
    · simp [same]

theorem handler?_ofEdits_eq_some {edits : List ControlEdit} {code : UInt8}
    {handler : ControlHandler} : (ofEdits edits).handler? code = some handler ↔
      ∃ opcode, ControlEdit.last? edits code = some (.register opcode handler) := by
  rw [handler?_ofEdits, Option.bind_eq_some_iff]
  constructor
  · rintro ⟨_ | _, last, entry⟩
    · cases entry
      exact ⟨_, last⟩
    · cases entry
  · rintro ⟨opcode, last⟩
    exact ⟨_, last, rfl⟩

theorem dispatch_eq_terminate {table : ControlTable} {pdu : ControlPdu}
    {context : ConnectionContext} : (table.dispatch pdu context).1 = .terminate ↔
      ∃ handler, table.handler? pdu.opcode.code = some handler ∧
        handler.act pdu context = .terminate := by
  unfold dispatch
  cases table.handler? pdu.opcode.code with
  | none => simp
  | some handler => simp

end ControlTable

end BlePeripheral

import BlePeripheral.Json.Printer
import BlePeripheral.Json.Reader

/-! JSON text. Main statement: a value that has a text is what is read from the text that is written
for it, and there is nothing behind it. -/

namespace BlePeripheral.Json

/-- The value is written as itself: no part of it is a number with a fraction, a string or a key
without a text, or a fault. -/
inductive HasText : Json → Prop
  | null : HasText .null
  | bool (b : Bool) : HasText (.bool b)
  | integer (n : Int) : HasText (.integer n)
  | string (s : String) : HasText (.text s)
  | array {items : List Json} (all : ∀ item ∈ items, HasText item) : HasText (.array items)
  | object {members : List (String × Json)} (all : ∀ member ∈ members, HasText member.2) :
      HasText (.fields members)

namespace HasText

variable {α : Type}

theorem nat (n : Nat) : HasText (.nat n) := .integer n

theorem map {write : α → Json} (each : ∀ a, HasText (write a)) (list : List α) :
    HasText (.array (list.map write)) :=
  .array (List.forall_mem_map.mpr fun a _ => each a)

theorem cons (name : String) {value : Json} {members : List (String × Json)}
    (first : HasText value) (others : ∀ member ∈ members, HasText member.2) :
    HasText (.fields ((name, value) :: members)) :=
  .object (List.forall_mem_cons.mpr ⟨first, others⟩)

end HasText

/-- The text does not go on with a number that may stand before it. -/
def Ends (rest : List Char) : Prop :=
  ∀ c tail, rest = c :: tail → c.isDigit = false ∧ c ≠ '.' ∧ c ≠ 'e' ∧ c ≠ 'E'

theorem ends_nil : Ends [] := nofun

theorem ends_cons {c : Char} (tail : List Char)
    (h : c.isDigit = false ∧ c ≠ '.' ∧ c ≠ 'e' ∧ c ≠ 'E') : Ends (c :: tail) := by
  rintro _ _ ⟨⟩
  exact h

section Numbers

variable {rest : List Char}

theorem isDigit_of_mem_toDigits {n : Nat} {c : Char} (h : c ∈ Nat.toDigits 10 n) :
    c.isDigit = true :=
  Nat.isDigit_of_mem_toDigits (by decide) (by decide) h

theorem decimal_toDigits (n : Nat) : decimal (Nat.toDigits 10 n) = n :=
  Nat.ofDigitChars_toDigits (by decide) (by decide)

theorem head?_toDigits {n : Nat} (positive : 0 < n) : (Nat.toDigits 10 n).head? ≠ some '0' := by
  induction n using Nat.strongRecOn with
  | ind n ih =>
    obtain small | large := Nat.lt_or_ge n 10
    · rw [Nat.toDigits_of_lt_base small]
      have all : ∀ m < 10, 0 < m → [m.digitChar].head? ≠ some '0' := by decide
      exact all n small positive
    · have shorter := ih (n / 10) (by omega) (by omega)
      rw [Nat.toDigits_of_base_le (by decide) large, List.head?_append]
      cases digits : Nat.toDigits 10 (n / 10) with
      | nil => exact absurd digits Nat.toDigits_ne_nil
      | cons d ds => rwa [digits] at shorter

theorem not_led_by_zero (n : Nat) :
    ¬((Nat.toDigits 10 n).head? = some '0' ∧ (Nat.toDigits 10 n).length ≠ 1) := by
  rintro ⟨zero, long⟩
  obtain rfl | positive := Nat.eq_zero_or_pos n
  · exact long rfl
  · exact head?_toDigits positive zero

theorem digits?_toDigits (n : Nat) (ends : Ends rest) :
    digits? (Nat.toDigits 10 n ++ rest) = some (Nat.toDigits 10 n, rest) := by
  have all : ∀ c ∈ Nat.toDigits 10 n, c.isDigit = true := fun c => isDigit_of_mem_toDigits
  have stops : rest.takeWhile Char.isDigit = [] ∧ rest.dropWhile Char.isDigit = rest := by
    cases rest with
    | nil => exact ⟨rfl, rfl⟩
    | cons c tail => simp [(ends c tail rfl).1]
  unfold digits?
  rw [List.takeWhile_append_of_pos all, List.dropWhile_append_of_pos all, stops.1, stops.2,
    List.append_nil]
  cases digits : Nat.toDigits 10 n with
  | nil => exact absurd digits Nat.toDigits_ne_nil
  | cons d ds => rfl

theorem fraction?_of_ends (ends : Ends rest) : fraction? rest = some (false, rest) := by
  unfold fraction?
  split
  next tail => exact absurd rfl (ends '.' tail rfl).2.1
  next => rfl

theorem exponent?_of_ends (ends : Ends rest) : exponent? rest = some (false, rest) := by
  cases rest with
  | nil => rfl
  | cons c tail =>
    obtain ⟨-, -, lower, upper⟩ := ends c tail rfl
    simp [exponent?, lower, upper]

theorem toDigits_append_ne_minus (n : Nat) (tail : List Char) :
    Nat.toDigits 10 n ++ rest ≠ '-' :: tail := by
  intro same
  cases digits : Nat.toDigits 10 n with
  | nil => exact Nat.toDigits_ne_nil digits
  | cons d ds =>
    have digit : d.isDigit = true := isDigit_of_mem_toDigits (n := n) (by simp [digits])
    rw [digits] at same
    cases same
    cases digit

theorem number?_toDigits (n : Nat) (ends : Ends rest) :
    number? (Nat.toDigits 10 n ++ rest) = some (.integer n, rest) := by
  have digits := digits?_toDigits n ends
  cases text : Nat.toDigits 10 n ++ rest with
  | nil => exact absurd (List.append_eq_nil_iff.mp text).1 Nat.toDigits_ne_nil
  | cons c tail =>
    have unsigned : c ≠ '-' := by
      rintro rfl
      exact toDigits_append_ne_minus n tail text
    rw [text] at digits
    simp [number?, unsigned, digits, not_led_by_zero, fraction?_of_ends ends,
      exponent?_of_ends ends, decimal_toDigits]

theorem number?_minus_toDigits (n : Nat) (ends : Ends rest) :
    number? ('-' :: (Nat.toDigits 10 (n + 1) ++ rest)) = some (.integer (Int.negSucc n), rest) := by
  simp [number?, digits?_toDigits (n + 1) ends, not_led_by_zero, fraction?_of_ends ends,
    exponent?_of_ends ends, decimal_toDigits, Int.negSucc_eq]

end Numbers

section Strings

variable {rest : List Char}

theorem escaped?_of_escapeLetter? {c letter : Char} (h : escapeLetter? c = some letter) :
    letter ≠ 'u' ∧ escaped? letter = some c := by
  unfold escapeLetter? at h
  split at h
  next marks =>
    cases h
    obtain rfl | rfl := marks <;> exact ⟨by decide, rfl⟩
  next =>
    repeat' split at h
    all_goals cases h
    all_goals subst_vars; exact ⟨by decide, by decide⟩

theorem padded_control {n : Nat} (control : n < 32) :
    ∃ a b c d, (Hex.padded 4 n).toList = [a, b, c, d] ∧ Hex.number? [a, b, c, d] = some n := by
  have all : ∀ n < 32, List.replicate (4 - (Nat.toDigits 16 n).length) '0' ++ Nat.toDigits 16 n =
      ['0', '0', Hex.digit (n / 16), Hex.digit (n % 16)] ∧
      Hex.number? ['0', '0', Hex.digit (n / 16), Hex.digit (n % 16)] = some n := by decide
  obtain ⟨text, number⟩ := all n control
  exact ⟨_, _, _, _, by rw [Hex.padded, String.toList_ofList, text], number⟩

theorem joinParts?_unit {n : Nat} (low : n < 0xD800) (parts : List StringPart) :
    joinParts? (.unit n :: parts) = (joinParts? parts).map (Char.ofNat n :: ·) := by
  have whole : isHighSurrogate n = false ∧ isLowSurrogate n = false := by
    simp only [isHighSurrogate, isLowSurrogate, Bool.and_eq_false_iff, decide_eq_false_iff_not]
    omega
  cases parts with
  | nil => simp [joinParts?, whole]
  | cons part parts => cases part <;> simp [joinParts?, whole]

theorem stringParts?_escapedChar (c : Char) : ∃ part,
    (∀ parts, joinParts? (part :: parts) = (joinParts? parts).map (c :: ·)) ∧
    ∀ rest, stringParts? ((escapedChar c).toList ++ rest) = do
      let (parts, rest) ← stringParts? rest
      return (part :: parts, rest) := by
  unfold escapedChar
  cases found : escapeLetter? c with
  | some letter =>
    obtain ⟨other, back⟩ := escaped?_of_escapeLetter? found
    refine ⟨.char c, fun parts => rfl, fun rest => ?_⟩
    simp [stringParts?, other, back]
  | none =>
    simp only
    split
    next control =>
      obtain ⟨a, b, d, e, digits, number⟩ := padded_control control
      refine ⟨.unit c.toNat, fun parts => ?_, fun rest => ?_⟩
      · rw [joinParts?_unit (by omega), Char.ofNat_toNat]
      · rw [String.toList_append, digits]
        simp [stringParts?, number]
    next plain =>
      have marks : c ≠ '"' ∧ c ≠ '\\' := by
        constructor <;> rintro rfl <;> cases found
      refine ⟨.char c, fun parts => rfl, fun rest => ?_⟩
      simp [stringParts?, plain, marks]

theorem stringParts?_flatMap_escapedChar (cs rest : List Char) :
    ∃ parts, joinParts? parts = some cs ∧
      stringParts? (cs.flatMap (fun c => (escapedChar c).toList) ++ '"' :: rest) =
        some (parts, rest) := by
  induction cs with
  | nil => exact ⟨[], rfl, rfl⟩
  | cons c cs ih =>
    obtain ⟨parts, joined, read⟩ := ih
    obtain ⟨part, whole, first⟩ := stringParts?_escapedChar c
    refine ⟨part :: parts, by rw [whole, joined, Option.map_some], ?_⟩
    rw [List.flatMap_cons, List.append_assoc, first, read]
    rfl

def closing (s : String) : List Char := s.toList.flatMap (fun c => (escapedChar c).toList) ++ ['"']

theorem toList_quoted (s : String) : (quoted s).toList = '"' :: closing s := by
  rw [quoted, closing, String.toList_append, String.toList_append, String.toList_join,
    List.flatMap_def, List.flatMap_def, List.map_map]
  rfl

theorem string?_closing (s : String) : string? (closing s ++ rest) = some (some s, rest) := by
  obtain ⟨parts, joined, read⟩ := stringParts?_flatMap_escapedChar s.toList rest
  rw [closing, List.append_assoc, List.singleton_append, string?, read]
  simp [joined]

end Strings

section Containers

def listed (texts : List (List Char)) : List Char := [','].intercalate texts

theorem listed_cons_cons (first second : List Char) (texts : List (List Char)) :
    listed (first :: second :: texts) = first ++ ',' :: listed (second :: texts) := by
  rw [listed, List.intercalate_cons_cons, List.append_assoc]
  rfl

theorem listed_leads {first tail : List Char} {c : Char} (text : first = c :: tail)
    (texts : List (List Char)) (rest : List Char) :
    ∃ behind, listed (first :: texts) ++ rest = c :: behind := by
  subst text
  cases texts with
  | nil => exact ⟨tail ++ rest, by rw [listed, List.intercalate_singleton, List.cons_append]⟩
  | cons second texts => exact ⟨_, by rw [listed_cons_cons, List.cons_append, List.cons_append]⟩

theorem renderItems_eq (items : List Json) : renderItems items = items.map render := by
  induction items with
  | nil => rfl
  | cons item items ih => rw [renderItems, ih, List.map_cons]

theorem renderMembers_eq (members : List (Option String × Json)) : renderMembers members =
    members.map fun member => quoted (member.1.getD "") ++ ":" ++ render member.2 := by
  induction members with
  | nil => rfl
  | cons member members ih => rw [renderMembers, ih, List.map_cons]

theorem render_array (items : List Json) : (render (.array items)).toList =
    '[' :: (listed (items.map fun item => (render item).toList) ++ [']']) := by
  rw [render, renderItems_eq, String.toList_append, String.toList_append,
    String.toList_intercalate, List.map_map]
  rfl

def memberText (member : String × Json) : List Char :=
  (quoted member.1).toList ++ ':' :: (render member.2).toList

theorem fields_eq (members : List (String × Json)) :
    fields members = .object (members.map fun member => (some member.1, member.2)) := rfl

theorem render_fields (members : List (String × Json)) : (render (.fields members)).toList =
    '{' :: (listed (members.map memberText) ++ ['}']) := by
  have texts : (renderMembers (members.map fun member => (some member.1, member.2))).map
      String.toList = members.map memberText := by
    rw [renderMembers_eq, List.map_map, List.map_map]
    refine List.map_congr_left fun member _ => ?_
    simp [memberText]
  rw [fields_eq, render, String.toList_append, String.toList_append, String.toList_intercalate,
    texts]
  rfl

end Containers

section Values

variable {rest : List Char}

theorem skipBlanks_cons {c : Char} (tail : List Char) (h : isBlank c = false) :
    skipBlanks (c :: tail) = c :: tail := by
  simp [skipBlanks, h]

theorem toList_toString (n : Int) :
    (∃ m : Nat, n = m ∧ (toString n).toList = Nat.toDigits 10 m) ∨
      ∃ m : Nat, n = Int.negSucc m ∧ (toString n).toList = '-' :: Nat.toDigits 10 (m + 1) := by
  cases n with
  | ofNat m => exact .inl ⟨m, rfl, by simp [toString, Int.repr, Nat.repr]⟩
  | negSucc m => exact .inr ⟨m, rfl, by simp [toString, Int.repr, Nat.repr]⟩

theorem number?_toString (n : Int) (ends : Ends rest) :
    number? ((toString n).toList ++ rest) = some (.integer n, rest) := by
  obtain ⟨m, rfl, text⟩ | ⟨m, rfl, text⟩ := toList_toString n
  · rw [text, number?_toDigits m ends]
  · rw [text, List.cons_append, number?_minus_toDigits m ends]

theorem toString_leads (n : Int) : ∃ c tail, (toString n).toList = c :: tail ∧
    c ∉ [' ', '\n', '\t', '\r', ']', '[', '{', '"', 'n', 't', 'f'] := by
  have digits : ∀ m, ∃ c tail, Nat.toDigits 10 m = c :: tail ∧ c.isDigit = true := by
    intro m
    cases text : Nat.toDigits 10 m with
    | nil => exact absurd text Nat.toDigits_ne_nil
    | cons c tail => exact ⟨c, tail, rfl, isDigit_of_mem_toDigits (n := m) (by simp [text])⟩
  obtain ⟨m, -, text⟩ | ⟨m, -, text⟩ := toList_toString n
  · obtain ⟨c, tail, first, digit⟩ := digits m
    refine ⟨c, tail, text.trans first, fun mark => ?_⟩
    have none : [' ', '\n', '\t', '\r', ']', '[', '{', '"', 'n', 't', 'f'].all
        (fun d => !d.isDigit) = true := rfl
    have no := List.all_eq_true.mp none c mark
    rw [digit] at no
    cases no
  · exact ⟨'-', _, text, by decide⟩

theorem render_leads {json : Json} (h : HasText json) :
    ∃ c tail, (render json).toList = c :: tail ∧ isBlank c = false ∧ c ≠ ']' := by
  cases h with
  | null => exact ⟨'n', _, rfl, by decide⟩
  | bool b => cases b <;> exact ⟨_, _, rfl, by decide⟩
  | integer n =>
    obtain ⟨c, tail, text, other⟩ := toString_leads n
    refine ⟨c, tail, text, ?_⟩
    simp only [List.mem_cons, not_or] at other
    simp [isBlank, other]
  | string s => exact ⟨'"', closing s, toList_quoted s, by decide⟩
  | array all => exact ⟨'[', _, render_array _, by decide⟩
  | object all => exact ⟨'{', _, render_fields _, by decide⟩

/-- Reading the text of a value gives the value and stops behind it. Fuel for twice the length of the
text is enough. -/
def Reads (json : Json) : Prop :=
  ∀ fuel rest, 2 * (render json).toList.length ≤ fuel + 1 → Ends rest →
    value (fuel + 1) ((render json).toList ++ rest) = (json, some rest)

theorem value_of_scalar? {cs : List Char} {json : Json} (fuel : Nat) {c : Char} {tail : List Char}
    (first : cs = c :: tail) (other : isBlank c = false ∧ c ≠ '[' ∧ c ≠ '{' ∧ c ≠ '"')
    (read : scalar? cs = some (json, rest)) : value (fuel + 1) cs = (json, some rest) := by
  subst first
  obtain ⟨blank, array, object, string⟩ := other
  simp [value, skipBlanks_cons tail blank, array, object, string, read]

theorem reads_null : Reads .null :=
  fun fuel _ _ _ => value_of_scalar? fuel rfl (by decide) rfl

theorem reads_bool (b : Bool) : Reads (.bool b) := by
  intro fuel rest enough ends
  cases b
  · exact value_of_scalar? fuel rfl (by decide) rfl
  · exact value_of_scalar? fuel rfl (by decide) rfl

theorem reads_integer (n : Int) : Reads (.integer n) := by
  intro fuel rest enough ends
  obtain ⟨c, tail, text, other⟩ := toString_leads n
  have number := number?_toString n ends
  simp only [List.mem_cons, not_or] at other
  rw [render, text] at *
  refine value_of_scalar? fuel rfl (by simp [isBlank, other]) ?_
  rw [← number]
  simp [scalar?, eq_comm (b := c), other]

theorem reads_string (s : String) : Reads (.text s) := by
  intro fuel rest enough ends
  rw [text, render, toList_quoted, List.cons_append, value, skipBlanks_cons _ (by decide)]
  simp [string?_closing]

theorem length_render_pos {json : Json} (h : HasText json) : 0 < (render json).toList.length := by
  obtain ⟨c, tail, text, -⟩ := render_leads h
  rw [text]
  exact Nat.succ_pos _

theorem items_listed {item : Json} {others : List Json} (rest : List Char)
    (each : ∀ json ∈ item :: others, HasText json ∧ Reads json) (fuel : Nat)
    (enough : 2 * (listed ((item :: others).map fun item => (render item).toList)).length < fuel) :
    items fuel (listed ((item :: others).map fun item => (render item).toList) ++ ']' :: rest) =
      (item :: others, some rest) := by
  induction others generalizing item fuel with
  | nil =>
    obtain ⟨hasText, reads⟩ := each item List.mem_cons_self
    have positive := length_render_pos hasText
    rw [List.map_singleton, listed, List.intercalate_singleton] at *
    obtain ⟨fuel, rfl⟩ : ∃ k, fuel = k + 2 := ⟨fuel - 2, by omega⟩
    rw [items, reads fuel (']' :: rest) (by omega) (ends_cons rest (by decide))]
    simp [skipBlanks, isBlank]
  | cons second others ih =>
    obtain ⟨⟨hasText, reads⟩, later⟩ := List.forall_mem_cons.mp each
    have positive := length_render_pos hasText
    simp only [List.map_cons, listed_cons_cons] at *
    rw [List.length_append, List.length_cons] at enough
    obtain ⟨fuel, rfl⟩ : ∃ k, fuel = k + 2 := ⟨fuel - 2, by omega⟩
    -- The comma pays for the call that reads the items behind it.
    rw [List.append_assoc, List.cons_append, items,
      reads fuel (',' :: _) (by omega) (ends_cons _ (by decide))]
    simp [skipBlanks, isBlank, ih later (fuel + 1) (by omega)]

theorem member?_memberText (member : String × Json) :
    member? (memberText member ++ rest) =
      some (some member.1, (render member.2).toList ++ rest) := by
  rw [memberText, toList_quoted, List.append_assoc, List.cons_append, member?,
    skipBlanks_cons _ (by decide)]
  simp [string?_closing, skipBlanks, isBlank]

theorem members_listed {member : String × Json} {others : List (String × Json)}
    (rest : List Char) (each : ∀ found ∈ member :: others, Reads found.2) (fuel : Nat)
    (enough : 2 * (listed ((member :: others).map memberText)).length < fuel) :
    members fuel (listed ((member :: others).map memberText) ++ '}' :: rest) =
      ((member :: others).map fun found => (some found.1, found.2), some rest) := by
  have longer : ∀ member : String × Json,
      (render member.2).toList.length < (memberText member).length := by
    intro member
    rw [memberText, List.length_append, List.length_cons]
    omega
  induction others generalizing member fuel with
  | nil =>
    have reads := each member List.mem_cons_self
    have shorter := longer member
    rw [List.map_singleton, listed, List.intercalate_singleton] at *
    obtain ⟨fuel, rfl⟩ : ∃ k, fuel = k + 2 := ⟨fuel - 2, by omega⟩
    rw [members, member?_memberText]
    simp only [reads fuel ('}' :: rest) (by omega) (ends_cons rest (by decide))]
    simp [skipBlanks, isBlank]
  | cons second others ih =>
    obtain ⟨reads, later⟩ := List.forall_mem_cons.mp each
    have shorter := longer member
    simp only [List.map_cons, listed_cons_cons] at *
    rw [List.length_append, List.length_cons] at enough
    obtain ⟨fuel, rfl⟩ : ∃ k, fuel = k + 2 := ⟨fuel - 2, by omega⟩
    rw [List.append_assoc, List.cons_append, members, member?_memberText]
    simp only [reads fuel (',' :: _) (by omega) (ends_cons _ (by decide))]
    simp [skipBlanks, isBlank, ih later (fuel + 1) (by omega)]

theorem reads_array {items : List Json} (each : ∀ item ∈ items, HasText item ∧ Reads item) :
    Reads (.array items) := by
  intro fuel rest enough ends
  rw [render_array] at *
  cases items with
  | nil => simp [listed, value, skipBlanks, isBlank]
  | cons item others =>
    rw [List.length_cons, List.length_append, List.length_singleton] at enough
    have found := items_listed rest each fuel (by omega)
    obtain ⟨c, tail, text, blank, further⟩ := render_leads (each item List.mem_cons_self).1
    rw [List.map_cons] at found ⊢
    obtain ⟨behind, first⟩ :=
      listed_leads text (others.map fun item => (render item).toList) (']' :: rest)
    rw [first] at found
    rw [List.cons_append, List.append_assoc, List.singleton_append, first, value,
      skipBlanks_cons _ (by decide)]
    simp [skipBlanks_cons _ blank, further, found]

theorem reads_object {members : List (String × Json)} (each : ∀ member ∈ members, Reads member.2) :
    Reads (.fields members) := by
  intro fuel rest enough ends
  rw [render_fields] at *
  cases members with
  | nil => simp [listed, value, skipBlanks, isBlank, fields]
  | cons member others =>
    rw [List.length_cons, List.length_append, List.length_singleton] at enough
    have found := members_listed rest each fuel (by omega)
    have text : memberText member =
        '"' :: (closing member.1 ++ ':' :: (render member.2).toList) := by
      rw [memberText, toList_quoted, List.cons_append]
    rw [List.map_cons (f := memberText)] at found ⊢
    obtain ⟨behind, first⟩ := listed_leads text (others.map memberText) ('}' :: rest)
    rw [first] at found
    rw [List.cons_append, List.append_assoc, List.singleton_append, first, value,
      skipBlanks_cons _ (by decide)]
    simp [skipBlanks_cons _ (show isBlank '"' = false by decide), found, fields]

theorem reads_of_hasText {json : Json} (h : HasText json) : Reads json := by
  induction h with
  | null => exact reads_null
  | bool b => exact reads_bool b
  | integer n => exact reads_integer n
  | string s => exact reads_string s
  | array all ih => exact reads_array fun item member => ⟨all item member, ih item member⟩
  | object all ih => exact reads_object ih

theorem ofText_render {json : Json} (h : HasText json) : ofText (render json) = (json, true) := by
  have read := reads_of_hasText h (2 * (render json).toList.length + 1) [] (by omega) ends_nil
  rw [List.append_nil] at read
  simp [ofText, read, skipBlanks]

end Values

end BlePeripheral.Json

import Mathlib.Data.List.Nodup
import BlePeripheral.Advertising.ConfigText
import BlePeripheral.Proofs.Address.Grammar
import BlePeripheral.Proofs.Json.Text

/-! Configurations as JSON. Main statement: an object that gives some fields of a configuration, in
any order and among members that are not known, is read as the configuration with those fields and
defaults for the others. -/

namespace BlePeripheral

namespace Reading

variable {α β : Type}

@[simp] theorem ok_bind (a : α) (next : α → Reading β) : ((.ok a : Reading α) >>= next) = next a :=
  rfl

theorem intWithin_of_le {low high n : Int} (within : low ≤ n ∧ n ≤ high) :
    intWithin low high (.integer n) = .ok n :=
  if_pos within

theorem uint8_toNat (n : UInt8) : uint8 (.nat n.toNat) = .ok n := by
  have fits := n.toNat_lt
  have read := intWithin_of_le (show (0 : Int) ≤ n.toNat ∧ (n.toNat : Int) ≤ 255 by omega)
  simp [uint8, Json.nat, read]

theorem uint16_toNat (n : UInt16) : uint16 (.nat n.toNat) = .ok n := by
  have fits := n.toNat_lt
  have read := intWithin_of_le (show (0 : Int) ≤ n.toNat ∧ (n.toNat : Int) ≤ 65535 by omega)
  simp [uint16, Json.nat, read]

theorem uint32_toNat (n : UInt32) : uint32 (.nat n.toNat) = .ok n := by
  have fits := n.toNat_lt
  have read := intWithin_of_le (show (0 : Int) ≤ n.toNat ∧ (n.toNat : Int) ≤ 4294967295 by omega)
  simp [uint32, Json.nat, read]

theorem int8_toInt (n : Int8) : int8 (.integer n.toInt) = .ok n := by
  have read := intWithin_of_le (show -128 ≤ n.toInt ∧ n.toInt ≤ 127 from
    ⟨n.le_toInt, Int.le_of_lt_add_one n.toInt_lt⟩)
  simp [int8, read]

theorem mapM_of_forall {read : α → Reading β} (result : α → β) {list : List α}
    (each : ∀ a ∈ list, read a = .ok (result a)) : list.mapM read = .ok (list.map result) := by
  induction list with
  | nil => rfl
  | cons a list ih =>
    obtain ⟨first, each⟩ := List.forall_mem_cons.mp each
    rw [List.mapM_cons, first, ih each]
    rfl

theorem listOf_map {read : Json → Reading α} {write : α → Json}
    (back : ∀ a, read (write a) = .ok a) (list : List α) :
    listOf read (.array (list.map write)) = .ok list := by
  rw [listOf, List.mapM_map]
  exact (mapM_of_forall id fun a _ => back a).trans (by rw [List.map_id])

theorem lookup_of_mem {members : List (String × Json)} (once : (members.map Prod.fst).Nodup)
    {member : String × Json} (given : member ∈ members) :
    members.lookup member.1 = some member.2 := by
  induction members with
  | nil => cases given
  | cons first members ih =>
    obtain ⟨apart, once⟩ := List.nodup_cons.mp once
    rw [List.lookup_cons]
    obtain rfl | given := List.mem_cons.mp given
    · rw [beq_self_eq_true]
    · have other : member.1 ≠ first.1 := fun same => apart (List.mem_map.mpr ⟨_, given, same⟩)
      rw [beq_false_of_ne other]
      exact ih once given

theorem membersByKey_of_nodup {known : List String} {members found : List (String × Json)}
    (keys : ∀ member ∈ members, member.1 ∈ known) (once : (members.map Prod.fst).Nodup)
    (fresh : ∀ member ∈ members, found.lookup member.1 = none) :
    membersByKey known (members.map fun member => (some member.1, member.2)) found =
      .ok (members.reverse ++ found) := by
  induction members generalizing found with
  | nil => rfl
  | cons member members ih =>
    obtain ⟨isKnown, keys⟩ := List.forall_mem_cons.mp keys
    obtain ⟨apart, once⟩ := List.nodup_cons.mp once
    obtain ⟨unseen, fresh⟩ := List.forall_mem_cons.mp fresh
    have fresh' : ∀ later ∈ members, (member :: found).lookup later.1 = none := by
      intro later given
      have other : later.1 ≠ member.1 := fun same => apart (List.mem_map.mpr ⟨_, given, same⟩)
      rw [List.lookup_cons, beq_false_of_ne other]
      exact fresh later given
    rw [List.map_cons, membersByKey, if_pos (List.contains_iff_mem.mpr isKnown), unseen,
      if_neg (by decide), ih keys once fresh', List.reverse_cons, List.append_assoc]
    rfl

theorem required_fields {names : List String} {members : List (String × Json)}
    (keys : members.map Prod.fst = names) (once : names.Nodup) :
    required names (.fields members) = .ok (members.map Prod.snd) := by
  subst keys
  have found := membersByKey_of_nodup (fun member => List.mem_map_of_mem) once
    (fun _ _ => List.lookup_nil)
  have once' : (members.reverse.map Prod.fst).Nodup := by
    rwa [List.map_reverse, List.nodup_reverse]
  rw [Json.fields_eq, required, found, ok_bind, List.append_nil, List.mapM_map]
  refine mapM_of_forall _ fun member given => ?_
  rw [Function.comp_apply, lookup_of_mem once' (List.mem_reverse.mpr given), ofOption]

end Reading

open Reading

theorem AddressKind.choice_toJson (kind : AddressKind) : choice named kind.toJson = .ok kind := by
  cases kind <;> rfl

theorem AdvertisingMode.choice_toJson (mode : AdvertisingMode) :
    choice named mode.toJson = .ok mode := by
  cases mode <;> rfl

theorem AdvertisingMode.hasText_toJson (mode : AdvertisingMode) : mode.toJson.HasText := by
  cases mode <;> exact .string _

theorem Phy.choice_toJson (phy : Phy) : choice named phy.toJson = .ok phy := by
  cases phy <;> rfl

theorem Phy.hasText_toJson (phy : Phy) : phy.toJson.HasText := by
  cases phy <;> exact .string _

theorem DeviceAddress.ofJson_toJson (a : DeviceAddress) : ofJson a.toJson = .ok a := by
  simp [ofJson, toJson, Json.text, string, ofText_eq_ok.mpr a.ofText?_text, pure, Except.pure]

theorem TickRate.ofJson_toJson (rate : TickRate) : ofJson rate.toJson = .ok rate := by
  have read : required ["ticks_per_us"] rate.toJson = .ok [.nat rate.ticksPerUs.toNat] :=
    required_fields rfl (by decide)
  simp [ofJson, read, uint32_toNat]

namespace AdStructure

theorem listOf_bytesJson (bytes : Bytes) : listOf uint8 (bytesJson bytes) = .ok bytes :=
  listOf_map uint8_toNat bytes

theorem ofJson_toJson (s : AdStructure) : ofJson s.toJson = .ok s := by
  cases s with
  | flags value => simp [toJson, ofJson, Json.fields, ofNamed, uint8_toNat]
  | txPower dbm => simp [toJson, ofJson, Json.fields, ofNamed, int8_toInt]
  | serviceUuids16 uuids => simp [toJson, ofJson, Json.fields, ofNamed, listOf_map uint16_toNat]
  | completeLocalName name => simp [toJson, ofJson, Json.fields, ofNamed, Json.text, string]
  | manufacturerData companyId data =>
    have read : required ["company_id", "data"]
        (Json.fields [("company_id", .nat companyId.toNat), ("data", bytesJson data)]) =
          .ok [.nat companyId.toNat, bytesJson data] := required_fields rfl (by decide)
    change ofNamed "manufacturer_data" _ = _
    simp [ofNamed, read, uint16_toNat, listOf_bytesJson]
  | raw adType data =>
    have read : required ["ad_type", "data"]
        (Json.fields [("ad_type", .nat adType.toNat), ("data", bytesJson data)]) =
          .ok [.nat adType.toNat, bytesJson data] := required_fields rfl (by decide)
    change ofNamed "raw" _ = _
    simp [ofNamed, read, uint8_toNat, listOf_bytesJson]

theorem hasText_bytesJson (bytes : Bytes) : (bytesJson bytes).HasText := by
  rw [bytesJson]
  exact .map (fun b => .nat b.toNat) bytes

theorem hasText_toJson (s : AdStructure) : s.toJson.HasText := by
  have bytes : ∀ data : Bytes, ∀ member ∈ [("data", bytesJson data)], member.2.HasText :=
    fun data => List.forall_mem_singleton.mpr (hasText_bytesJson data)
  cases s with
  | flags value => exact .cons _ (.nat _) nofun
  | txPower dbm => exact .cons _ (.integer _) nofun
  | serviceUuids16 uuids => exact .cons _ (.map (fun uuid => .nat uuid.toNat) uuids) nofun
  | completeLocalName name => exact .cons _ (.string name) nofun
  | manufacturerData companyId data => exact .cons _ (.cons _ (.nat _) (bytes data)) nofun
  | raw adType data => exact .cons _ (.cons _ (.nat _) (bytes data)) nofun

end AdStructure

def LinkConfig.taking (base : LinkConfig) (fields : List ConfigField) (config : LinkConfig) :
    LinkConfig where
  address := if .address ∈ fields then config.address else base.address
  addressKind := if .addressKind ∈ fields then config.addressKind else base.addressKind
  mode := if .mode ∈ fields then config.mode else base.mode
  advertisingData :=
    if .advertisingData ∈ fields then config.advertisingData else base.advertisingData
  scanResponseData :=
    if .scanResponseData ∈ fields then config.scanResponseData else base.scanResponseData
  advIntervalMs := if .advIntervalMs ∈ fields then config.advIntervalMs else base.advIntervalMs
  advRxWindowUs := if .advRxWindowUs ∈ fields then config.advRxWindowUs else base.advRxWindowUs
  tickRate := if .tickRate ∈ fields then config.tickRate else base.tickRate
  phy := if .phy ∈ fields then config.phy else base.phy

namespace ConfigField

theorem mem_all (field : ConfigField) : field ∈ all := by
  cases field <;> decide

theorem ofName?_name (field : ConfigField) : ofName? field.name = some field := by
  cases field <;> decide

theorem ofName?_eq_none {key : String} (unknown : ∀ field : ConfigField, key ≠ field.name) :
    ofName? key = none := by
  rw [ofName?, List.find?_eq_none]
  intro field _ same
  exact unknown field (of_decide_eq_true same).symm

theorem read_toJson (field : ConfigField) (config base : LinkConfig) :
    field.read (field.toJson config) base = .ok (base.taking [field] config) := by
  have structures := listOf_map AdStructure.ofJson_toJson
  cases field <;>
    simp [read, toJson, LinkConfig.taking, DeviceAddress.ofJson_toJson, AddressKind.choice_toJson,
      AdvertisingMode.choice_toJson, Phy.choice_toJson, TickRate.ofJson_toJson, structures,
      uint32_toNat]

theorem hasText_toJson (field : ConfigField) (config : LinkConfig) :
    (field.toJson config).HasText := by
  have structures := Json.HasText.map AdStructure.hasText_toJson
  cases field with
  | address => exact .string _
  | addressKind => exact .string _
  | mode => exact config.mode.hasText_toJson
  | advertisingData => exact structures _
  | scanResponseData => exact structures _
  | advIntervalMs => exact .nat _
  | advRxWindowUs => exact .nat _
  | tickRate => exact .cons _ (.nat _) nofun
  | phy => exact config.phy.hasText_toJson

end ConfigField

namespace LinkConfig

theorem taking_nil (base config : LinkConfig) : base.taking [] config = base := by
  simp [taking]

theorem taking_taking (base config : LinkConfig) (field : ConfigField) (fields : List ConfigField) :
    (base.taking [field] config).taking fields config = base.taking (field :: fields) config := by
  cases field <;> simp [taking]

theorem taking_all (base config : LinkConfig) : base.taking ConfigField.all config = config := by
  simp [taking, ConfigField.mem_all]

/-- The members give these fields of the configuration, one after the other, and else nothing that
is known. -/
inductive Gives (config : LinkConfig) : List ConfigField → List (String × Json) → Prop
  | nil : Gives config [] []
  | known {fields : List ConfigField} {members : List (String × Json)} (field : ConfigField)
      (later : Gives config fields members) :
      Gives config (field :: fields) ((field.name, field.toJson config) :: members)
  | unknown {fields : List ConfigField} {members : List (String × Json)} {key : String}
      (foreign : ∀ field : ConfigField, key ≠ field.name) (value : Json)
      (later : Gives config fields members) : Gives config fields ((key, value) :: members)

theorem gives_map (config : LinkConfig) (fields : List ConfigField) :
    Gives config fields (fields.map fun field => (field.name, field.toJson config)) := by
  induction fields with
  | nil => exact .nil
  | cons field fields ih => exact .known field ih

theorem readMembers_of_gives {config : LinkConfig} {fields : List ConfigField}
    {members : List (String × Json)} (gives : Gives config fields members) (once : fields.Nodup)
    (base : LinkConfig) {seen : List ConfigField} (fresh : ∀ field ∈ fields, field ∉ seen) :
    readMembers base seen (members.map fun member => (some member.1, member.2)) =
      .ok (base.taking fields config) := by
  induction gives generalizing base seen with
  | nil => rw [taking_nil]; rfl
  | @known fields _ field later ih =>
    obtain ⟨apart, once⟩ := List.nodup_cons.mp once
    obtain ⟨unseen, fresh⟩ := List.forall_mem_cons.mp fresh
    have fresh' : ∀ other ∈ fields, other ∉ field :: seen := by
      intro other given seen
      obtain rfl | seen := List.mem_cons.mp seen
      · exact apart given
      · exact fresh other given seen
    have unseen : seen.contains field = false := by simpa using unseen
    rw [List.map_cons, readMembers, ConfigField.ofName?_name]
    simp only [unseen, Bool.false_eq_true, if_false, ConfigField.read_toJson, ok_bind]
    rw [ih once _ fresh', taking_taking]
  | unknown foreign value later ih =>
    rw [List.map_cons, readMembers, ConfigField.ofName?_eq_none foreign]
    exact ih once base fresh

theorem hasText_of_gives {config : LinkConfig} {fields : List ConfigField}
    {members : List (String × Json)} (gives : Gives config fields members)
    (texts : ∀ member ∈ members, (∀ field : ConfigField, member.1 ≠ field.name) →
      member.2.HasText) : ∀ member ∈ members, member.2.HasText := by
  induction gives with
  | nil => nofun
  | known field later ih =>
    obtain ⟨-, texts⟩ := List.forall_mem_cons.mp texts
    exact List.forall_mem_cons.mpr ⟨field.hasText_toJson config, ih texts⟩
  | unknown foreign value later ih =>
    obtain ⟨text, texts⟩ := List.forall_mem_cons.mp texts
    exact List.forall_mem_cons.mpr ⟨text foreign, ih texts⟩

theorem ofJson_of_gives {config : LinkConfig} {fields : List ConfigField}
    {members : List (String × Json)} (gives : Gives config fields members) (once : fields.Nodup) :
    ofJson (Json.fields members) = .ok (({} : LinkConfig).taking fields config) :=
  readMembers_of_gives gives once {} fun _ _ => List.not_mem_nil

theorem ofText_of_gives {config : LinkConfig} {fields : List ConfigField}
    {members : List (String × Json)} (gives : Gives config fields members) (once : fields.Nodup)
    {text : String} (json : Json.ofText text = (Json.fields members, true)) :
    ofText text = .ok (({} : LinkConfig).taking fields config) := by
  simp [ofText, json, ofJson_of_gives gives once, pure, Except.pure]

theorem ofJson_toJson (config : LinkConfig) : ofJson config.toJson = .ok config := by
  have read := ofJson_of_gives (gives_map config ConfigField.all) (by decide)
  rwa [taking_all] at read

theorem ofText_of_toJson {config : LinkConfig} {text : String}
    (json : Json.ofText text = (config.toJson, true)) : ofText text = .ok config := by
  have read := ofText_of_gives (gives_map config ConfigField.all) (by decide) json
  rwa [taking_all] at read

theorem hasText_toJson (config : LinkConfig) : config.toJson.HasText :=
  .object (List.forall_mem_map.mpr fun field _ => field.hasText_toJson config)

/-- An object that gives some fields of a configuration, each of them once, is read as the defaults
with those fields of it, in whatever order they stand and whatever stands among them that is not
known: as a value, from every text of the object, and from the one that is written for it. A
configuration that is written whole is read back. -/
theorem fields_read_over_defaults (config : LinkConfig) :
    (∀ (fields : List ConfigField) (members : List (String × Json)), fields.Nodup →
      Gives config fields members →
        ofJson (Json.fields members) = .ok (({} : LinkConfig).taking fields config) ∧
        (∀ text, Json.ofText text = (Json.fields members, true) →
          ofText text = .ok (({} : LinkConfig).taking fields config)) ∧
        ((∀ member ∈ members, (∀ field : ConfigField, member.1 ≠ field.name) → member.2.HasText) →
          ofText (Json.render (Json.fields members)) =
            .ok (({} : LinkConfig).taking fields config))) ∧
    ofJson config.toJson = .ok config ∧
    (∀ text, Json.ofText text = (config.toJson, true) → ofText text = .ok config) ∧
    ofText (Json.render config.toJson) = .ok config := by
  refine ⟨?_, config.ofJson_toJson, fun text => ofText_of_toJson,
    ofText_of_toJson (Json.ofText_render config.hasText_toJson)⟩
  intro fields members once gives
  refine ⟨ofJson_of_gives gives once, fun text => ofText_of_gives gives once, fun texts => ?_⟩
  exact ofText_of_gives gives once (Json.ofText_render (.object (hasText_of_gives gives texts)))

theorem fields_read_over_defaults_of_two :
    ofText (Json.render (Json.fields [("phy", .text "le2_m"), ("note", .array [.null, .integer 7]),
      ("advertising_data", .array [.fields [("tx_power", .integer (-128))],
        .fields [("complete_local_name", .text "a \"bell\"\n")]])])) =
      .ok { advertisingData := [.txPower (-128), .completeLocalName "a \"bell\"\n"],
            phy := .le2M } := by
  have given := fields_read_over_defaults
    { advertisingData := [.txPower (-128), .completeLocalName "a \"bell\"\n"], phy := .le2M,
      mode := .scannable }
  have foreign : ∀ field : ConfigField, "note" ≠ field.name := by
    intro field
    cases field <;> decide
  have note : (Json.array [.null, .integer 7]).HasText :=
    .array (List.forall_mem_cons.mpr ⟨.null, List.forall_mem_singleton.mpr (.integer 7)⟩)
  have read := given.1 [.phy, .advertisingData] _ (by decide)
    (.known .phy (.unknown foreign (.array [.null, .integer 7]) (.known .advertisingData .nil)))
  refine read.2.2 ?_
  simp only [List.forall_mem_cons]
  exact ⟨fun known => absurd rfl (known .phy), fun _ => note,
    fun known => absurd rfl (known .advertisingData), nofun⟩

end LinkConfig

end BlePeripheral

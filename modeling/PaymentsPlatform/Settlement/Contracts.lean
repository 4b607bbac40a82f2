import PaymentsPlatform.Settlement.Rules

/-!
# Loading a settlement contract

`load_settlement_contract` on the value that `yaml.safe_load` returns. The regular expressions and
the codecs of the platform are parameters. The loader fixes the names and the order of the columns
and little else: whether a column must be there and filled is up to the contract.
-/

namespace Settlement

open Python

/-- A compiled regular expression. -/
structure Regex where
  /-- The names of its groups. -/
  groups : List PyStr
  /-- `re.fullmatch`: the texts of the named groups, if the whole text matches. -/
  fullmatch : PyStr → Option (PyStr → PyStr)

/-- What the loader takes from the platform. -/
structure Platform where
  /-- `re.compile`; `none` is `re.error`. -/
  compile : PyStr → Option Regex
  /-- The codec of a name; a name without one decodes nothing. -/
  codec : PyStr → Bytes → Option PyStr

/-- A value of a YAML document, as far as the loader tells values apart. -/
inductive Yaml
  | null
  | bool (value : Bool)
  | int (value : Int)
  | text (value : PyStr)
  | list (items : List Yaml)
  | mapping (entries : List (PyStr × Yaml))
  /-- A float, a date, or anything else. -/
  | other

/-- The entries of a mapping. -/
abbrev Entries := List (PyStr × Yaml)

/-- `mapping.get(key)` where a default is given for a missing key. -/
def Entries.find (entries : Entries) (key : PyStr) : Option Yaml :=
  (List.find? (fun entry => entry.1 = key) entries).map Prod.snd

/-- `mapping.get(key)`. -/
def Entries.get (entries : Entries) (key : PyStr) : Yaml := (entries.find key).getD .null

/-- `ContractError`, by its text. -/
structure ContractError where
  /-- The text. -/
  message : PyStr
deriving DecidableEq

/-- A check of the loader. -/
def require (condition : Prop) [Decidable condition] (message : PyStr) :
    Except ContractError Unit := if condition then .ok () else .error ⟨message⟩

/-- `_mapping`. -/
def mappingOf (value : Yaml) (context : PyStr) : Except ContractError Entries :=
  match value with
  | .mapping entries => .ok entries
  | _ => .error ⟨context ++ py " must be a mapping"⟩

/-- `_required_text`. -/
def requiredText (entries : Entries) (key context : PyStr) : Except ContractError PyStr :=
  match entries.get key with
  | .text value =>
    if strip isWhitespace value = [] then
      .error ⟨context ++ py "." ++ key ++ py " must be a non-empty string"⟩
    else .ok (strip isWhitespace value)
  | _ => .error ⟨context ++ py "." ++ key ++ py " must be a non-empty string"⟩

/-- `_optional_positive_int`. -/
def optionalPositiveInt (entries : Entries) (key context : PyStr) :
    Except ContractError (Option Nat) :=
  match entries.get key with
  | .null => .ok none
  | .int value =>
    if value < 1 then .error ⟨context ++ py "." ++ key ++ py " must be a positive integer"⟩
    else .ok (some value.toNat)
  | _ => .error ⟨context ++ py "." ++ key ++ py " must be a positive integer"⟩

/-- The texts of a list of texts. -/
def textItems : List Yaml → Option (List PyStr)
  | [] => some []
  | .text value :: items => (textItems items).map (value :: ·)
  | _ :: _ => none

/-- Whether `mapping.get(key) is True`. -/
def Entries.isTrue (entries : Entries) (key : PyStr) : Bool :=
  match entries.get key with
  | .bool value => value
  | _ => false

/-- The values of `allowed_values`: a list of texts that are not empty. -/
def allowedValuesOf (entries : Entries) (context : PyStr) : Except ContractError (List PyStr) :=
  match (entries.find "allowed_values").getD (.list []) with
  | .list items =>
    match textItems items with
    | some values =>
      if [] ∈ values then .error ⟨context ++ py ".allowed_values must be a string list"⟩
      else .ok values
    | none => .error ⟨context ++ py ".allowed_values must be a string list"⟩
  | _ => .error ⟨context ++ py ".allowed_values must be a string list"⟩

/-- The pattern of a column. -/
def patternOf (platform : Platform) (entries : Entries) (context : PyStr) :
    Except ContractError (Option (PyStr → Bool)) :=
  match entries.get "pattern" with
  | .null => .ok none
  | .text pattern =>
    match platform.compile pattern with
    | some regex => .ok (some fun text => (regex.fullmatch text).isSome)
    | none => .error ⟨context ++ py ".pattern is not valid regex"⟩
  | _ => .error ⟨context ++ py ".pattern must be a string"⟩

/-- `_parse_field`. The type and `timezone_required` are not read by the ingestion. -/
def parseField (platform : Platform) (rawField : Yaml) (index : Nat) :
    Except ContractError FieldContract := do
  let context := py "fields[" ++ natText index ++ py "]"
  let field ← mappingOf rawField context
  let allowedValues ← allowedValuesOf field context
  let pattern ← patternOf platform field context
  let name ← requiredText field "name" context
  let _ ← requiredText field "type" context
  let precision ← optionalPositiveInt field "precision" context
  let scale ← optionalPositiveInt field "scale" context
  let maxLength ← optionalPositiveInt field "max_length" context
  return {
    name
    required := field.isTrue "required"
    nullable := field.isTrue "nullable"
    precision
    scale
    pattern
    maxLength
    allowedValues }

/-- The fields in order, from an index on. -/
def parseFields (platform : Platform) (index : Nat) :
    List Yaml → Except ContractError (List FieldContract)
  | [] => .ok []
  | rawField :: rawFields => do
    let field ← parseField platform rawField index
    let fields ← parseFields platform (index + 1) rawFields
    return field :: fields

/-- `REQUIRED_SETTLEMENT_FIELDS`. -/
def requiredSettlementFields : List PyStr :=
  ["partner_id", "settlement_date", "settlement_reference", "partner_transaction_reference",
    "internal_transaction_id", "transaction_timestamp", "amount", "currency",
    "settlement_status", "fee_amount", "net_amount"]

/-- The list of fields of the document. -/
def rawFieldsOf (root : Entries) : Except ContractError (List Yaml) :=
  match root.get "fields" with
  | .list (first :: rest) => .ok (first :: rest)
  | _ => .error ⟨"fields must be a non-empty list"⟩

/-- The names of the business key. -/
def businessKeyOf (file : Entries) (names : List PyStr) : Except ContractError Unit :=
  match file.get "business_key" with
  | .list items =>
    match textItems items with
    | some keys => require (∀ key ∈ keys, key ∈ names)
        "file.business_key must reference declared fields"
    | none => .error ⟨"file.business_key must reference declared fields"⟩
  | _ => .error ⟨"file.business_key must reference declared fields"⟩

/-- The naming pattern. -/
def namingPatternOf (platform : Platform) (file : Entries) : Except ContractError Regex := do
  let text ← requiredText file "naming_pattern" "file"
  match platform.compile text with
  | none => .error ⟨"file.naming_pattern is not valid regex"⟩
  | some regex =>
    if ∀ group ∈ [py "partner_id", py "settlement_date", py "sequence"], group ∈ regex.groups then
      .ok regex
    else .error ⟨"file.naming_pattern must define partner_id, settlement_date, sequence"⟩

/-- `load_settlement_contract` on the value of the document. -/
def loadSettlementContract (platform : Platform) (payload : Yaml) :
    Except ContractError SettlementContract := do
  let root ← mappingOf payload "contract"
  let file ← mappingOf (root.get "file") "file"
  let rawFields ← rawFieldsOf root
  let fields ← parseFields platform 0 rawFields
  let names := fields.map FieldContract.name
  require (names = requiredSettlementFields)
    (py "Settlement fields must exactly match the ordered v1 field list: " ++
      List.intercalate ", " requiredSettlementFields)
  require names.Nodup "Settlement field names must be unique"
  businessKeyOf file names
  let delimiter ← requiredText file "delimiter" "file"
  require (delimiter.length = 1) "file.delimiter must contain exactly one character"
  let regex ← namingPatternOf platform file
  let _ ← requiredText root "name" "contract"
  let schemaVersion ← requiredText root "schema_version" "contract"
  let _ ← requiredText root "contract_version" "contract"
  let _ ← requiredText root "owner" "contract"
  let _ ← requiredText root "source_owner" "contract"
  let _ ← requiredText root "classification" "contract"
  let encoding ← requiredText file "encoding" "file"
  let _ ← requiredText file "naming_convention" "file"
  let _ ← requiredText file "timestamp_convention" "file"
  let contract : SettlementContract := {
    schemaVersion
    encoding
    decode := platform.codec encoding
    delimiter := delimiter.headD 0
    namingPattern := fun text => (regex.fullmatch text).map fun group =>
      (group "partner_id", group "settlement_date", group "sequence")
    fields }
  require ((contract.field "internal_transaction_id").nullable = true)
    "internal_transaction_id must remain nullable in settlement-v1"
  require ((contract.field "settlement_status").allowedValues ≠ [])
    "settlement_status must declare allowed_values"
  return contract

/-- A contract that the loader accepts. -/
structure LoadedContract (platform : Platform) where
  /-- The contract. -/
  contract : SettlementContract
  /-- The document. -/
  payload : Yaml
  /-- The loader accepts it. -/
  loaded : loadSettlementContract platform payload = .ok contract

/-- A check that passes. -/
theorem require_eq_ok {condition : Prop} [Decidable condition] {message : PyStr} {done : Unit}
    (passed : require condition message = .ok done) : condition := by
  unfold require at passed
  split at passed
  · assumption
  · cases passed

/-- A loaded contract has the eleven columns in order. -/
theorem LoadedContract.fieldNames {platform : Platform} (own : LoadedContract platform) :
    own.contract.fieldNames = requiredSettlementFields := by
  have loaded := own.loaded
  unfold loadSettlementContract at loaded
  obtain ⟨root, -, loaded⟩ := bind_eq_ok.mp loaded
  obtain ⟨file, -, loaded⟩ := bind_eq_ok.mp loaded
  obtain ⟨rawFields, -, loaded⟩ := bind_eq_ok.mp loaded
  obtain ⟨fields, -, loaded⟩ := bind_eq_ok.mp loaded
  obtain ⟨_, names, loaded⟩ := bind_eq_ok.mp loaded
  obtain ⟨_, -, loaded⟩ := bind_eq_ok.mp loaded
  obtain ⟨_, -, loaded⟩ := bind_eq_ok.mp loaded
  obtain ⟨delimiter, -, loaded⟩ := bind_eq_ok.mp loaded
  obtain ⟨_, -, loaded⟩ := bind_eq_ok.mp loaded
  obtain ⟨regex, -, loaded⟩ := bind_eq_ok.mp loaded
  obtain ⟨_, -, loaded⟩ := bind_eq_ok.mp loaded
  obtain ⟨schemaVersion, -, loaded⟩ := bind_eq_ok.mp loaded
  obtain ⟨_, -, loaded⟩ := bind_eq_ok.mp loaded
  obtain ⟨_, -, loaded⟩ := bind_eq_ok.mp loaded
  obtain ⟨_, -, loaded⟩ := bind_eq_ok.mp loaded
  obtain ⟨_, -, loaded⟩ := bind_eq_ok.mp loaded
  obtain ⟨encoding, -, loaded⟩ := bind_eq_ok.mp loaded
  obtain ⟨_, -, loaded⟩ := bind_eq_ok.mp loaded
  obtain ⟨_, -, loaded⟩ := bind_eq_ok.mp loaded
  obtain ⟨_, -, loaded⟩ := bind_eq_ok.mp loaded
  obtain ⟨_, -, loaded⟩ := bind_eq_ok.mp loaded
  rw [← Except.ok.inj loaded]
  exact require_eq_ok names

/-- A column of a loaded contract is found under its name. -/
theorem LoadedContract.field_mem {platform : Platform} (own : LoadedContract platform)
    {name : PyStr} (member : name ∈ requiredSettlementFields) :
    own.contract.field name ∈ own.contract.fields ∧ (own.contract.field name).name = name := by
  rw [← own.fieldNames] at member
  obtain ⟨field, inside, named⟩ := List.mem_map.mp member
  cases found : own.contract.fields.find? fun field => field.name = name with
  | none =>
    have other := List.find?_eq_none.mp found field inside
    simp [named] at other
  | some own =>
    have same := List.find?_some found
    unfold SettlementContract.field
    rw [found]
    exact ⟨List.mem_of_find?_eq_some found, of_decide_eq_true same⟩

/-- Under a contract that asks for the ten columns of a record, a row that follows the rules fills
them. -/
theorem LoadedContract.filled {platform : Platform} (own : LoadedContract platform)
    {filename : FilenameMetadata} {raw : RawRecord}
    (strict : ∀ name ∈ requiredValues, (own.contract.field name).required = true ∧
      (own.contract.field name).nullable = false)
    (follows : Follows own.contract filename raw) : Filled raw := by
  intro name member blank
  have column : ∀ name ∈ requiredValues, name ∈ requiredSettlementFields := by decide
  obtain ⟨inside, named⟩ := own.field_mem (column name member)
  obtain ⟨required, nullable⟩ := strict name member
  have rule := follows.columns _ inside
  unfold ColumnRule at rule
  rw [named] at rule
  unfold textOf at blank
  cases cell : raw.get name with
  | none =>
    rw [cell, required] at rule
    cases rule
  | some value =>
    rw [cell] at rule blank
    rw [rule.1 blank] at nullable
    cases nullable

/-! ## The shipped contract -/

/-- A regular expression without groups, by the texts it matches in full. -/
def Regex.plain (accepts : PyStr → Bool) : Regex :=
  ⟨[], fun text => if accepts text then some fun _ => [] else none⟩

/-- The naming pattern of `settlement-v1` as it is written. -/
def namingText : PyStr :=
  py "^settlement_(?P<partner_id>[A-Z][A-Z0-9]\x7b1,15\x7d)_(?P<settlement_date>" ++
    py "\\d\x7b4\x7d-\\d\x7b2\x7d-\\d\x7b2\x7d)_(?P<sequence>\\d\x7b3\x7d)\\.csv$"

/-- The regular expressions and the codec of `settlement-v1`. -/
def shippedPlatform : Platform where
  compile text :=
    if text = py "^[A-Z][A-Z0-9]\x7b1,15\x7d$" then some (.plain isPartnerId)
    else if text = py "^[A-Z]\x7b3\x7d$" then some (.plain isCurrency)
    else if text = namingText then
      some ⟨["partner_id", "settlement_date", "sequence"], fun name =>
        (settlementName name).map fun (partner, date, sequence) group =>
          if group = py "partner_id" then partner
          else if group = py "settlement_date" then date else sequence⟩
    else none
  codec name := if name = py "utf-8" then decodeUtf8 else fun _ => none

/-- A column of the document. -/
def columnDocument (name type : PyStr) (nullable : Bool) (more : Entries) : Yaml :=
  .mapping (("name", .text name) :: ("type", .text type) :: ("required", .bool true) ::
    ("nullable", .bool nullable) :: more)

/-- `settlement_v1.yml`; the partner may be left blank or not. -/
def contractDocument (partnerNullable : Bool) : Yaml :=
  let money : Entries := [("precision", .int 18), ("scale", .int 2)]
  .mapping [
    ("name", .text "banking_partner_settlement"),
    ("schema_version", .text "settlement-v1"),
    ("contract_version", .text "1.0.0"),
    ("owner", .text "Finance Data Products"),
    ("source_owner", .text "Banking Partnerships"),
    ("classification", .text "confidential-financial"),
    ("file", .mapping [
      ("encoding", .text "utf-8"),
      ("delimiter", .text ","),
      ("naming_convention", .text "settlement_<partner_id>_<settlement_date>_<sequence>.csv"),
      ("naming_pattern", .text namingText),
      ("timestamp_convention",
        .text "ISO-8601 with an explicit UTC offset; normalized to UTC in memory"),
      ("business_key",
        .list [.text "partner_id", .text "settlement_date", .text "settlement_reference"])]),
    ("fields", .list [
      columnDocument "partner_id" "string" partnerNullable
        [("pattern", .text "^[A-Z][A-Z0-9]\x7b1,15\x7d$")],
      columnDocument "settlement_date" "date" false [],
      columnDocument "settlement_reference" "string" false [("max_length", .int 128)],
      columnDocument "partner_transaction_reference" "string" false [("max_length", .int 128)],
      columnDocument "internal_transaction_id" "uuid" true [],
      columnDocument "transaction_timestamp" "timestamp" false [],
      columnDocument "amount" "decimal" false money,
      columnDocument "currency" "string" false [("pattern", .text "^[A-Z]\x7b3\x7d$")],
      columnDocument "settlement_status" "string" false
        [("allowed_values", .list [.text "SETTLED", .text "REVERSED", .text "FAILED"])],
      columnDocument "fee_amount" "decimal" false money,
      columnDocument "net_amount" "decimal" false money])]

/-- `settlement-v1` with other patterns. -/
def SettlementContract.patterned (partner currency : PyStr → Bool)
    (naming : PyStr → Option (PyStr × PyStr × PyStr)) : SettlementContract :=
  { settlementV1 with
    namingPattern := naming
    fields := settlementV1.fields.map fun field =>
      if field.name = py "partner_id" then { field with pattern := some partner }
      else if field.name = py "currency" then { field with pattern := some currency }
      else field }

/-- The shipped document is loaded as `settlement-v1`. -/
theorem contractDocument_loads :
    loadSettlementContract shippedPlatform (contractDocument false) = .ok settlementV1 := by
  have matching : ∀ accepts : PyStr → Bool,
      (fun text => ((Regex.plain accepts).fullmatch text).isSome) = accepts := by
    intro accepts
    funext text
    unfold Regex.plain
    cases accepted : accepts text <;> simp [accepted]
  have named : (fun text => ((settlementName text).map fun (parts : PyStr × PyStr × PyStr) group =>
      if group = py "partner_id" then parts.1
      else if group = py "settlement_date" then parts.2.1 else parts.2.2).map fun group =>
        (group "partner_id", group "settlement_date", group "sequence")) = settlementName := by
    funext text
    cases settlementName text <;> rfl
  have loaded : loadSettlementContract shippedPlatform (contractDocument false) =
      .ok (.patterned (fun text => ((Regex.plain isPartnerId).fullmatch text).isSome)
        (fun text => ((Regex.plain isCurrency).fullmatch text).isSome)
        (fun text => ((settlementName text).map fun (parts : PyStr × PyStr × PyStr) group =>
          if group = py "partner_id" then parts.1
          else if group = py "settlement_date" then parts.2.1 else parts.2.2).map fun group =>
            (group "partner_id", group "settlement_date", group "sequence"))) := by rfl
  rw [loaded, matching, matching, named]
  rfl

end Settlement

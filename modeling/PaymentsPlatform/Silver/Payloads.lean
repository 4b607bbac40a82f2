import PaymentsPlatform.Cdc.States
import PaymentsPlatform.Python.DecimalText
import PaymentsPlatform.Python.JsonText
import PaymentsPlatform.Silver.Money
import PaymentsPlatform.Silver.Representatives

/-!
# Payloads

A row state passes through `deterministic_json` in the consumer, `_json_object` and
`canonical_json` in the normalizer, and `_json_object` again in the projection. The first pass
writes decimal numbers as strings and sorts the members; after it every text is a fixed point, so
HISTORY holds the texts of Bronze, and an amount the column can hold arrives unchanged.
-/

namespace Silver

open Python

/-- `canonical_json` of a decoded value. -/
def canonicalJson (value : Json) : PyStr := Json.dumps value

namespace NormalizedCdcEvent

variable (event : NormalizedCdcEvent)

/-- `before_json`. -/
def beforeJson : Option PyStr := event.before.map fun members => canonicalJson (.obj members)

/-- `after_json`. -/
def afterJson : Option PyStr := event.after.map fun members => canonicalJson (.obj members)

/-- `business_payload_json`. -/
def businessPayloadJson : Option PyStr :=
  event.payload.map fun members => canonicalJson (.obj members)

end NormalizedCdcEvent

/-- The row the reader gives for an event the consumer wrote. -/
def bronzeRow (event : Cdc.BronzeEvent) : BronzeRow where
  eventId := some event.eventId
  entityName := some event.entityName
  operation := some event.operation
  eventKeyJson := event.eventKeyJson
  beforeJson := event.beforeJson
  afterJson := event.afterJson
  sourceMetadataJson := event.sourceMetadataJson
  sourceLsn := event.sourceLsn
  sourceTxId := event.sourceTxId
  sourceTsMs := event.sourceTsMs
  connectorTsMs := event.connectorTsMs
  kafkaTopic := some event.kafkaTopic
  kafkaPartition := some event.kafkaPartition
  kafkaOffset := some event.kafkaOffset
  kafkaMessageTsMs := event.kafkaMessageTsMs
  ingestedAt := some event.ingestedAt
  schemaVersion := some event.schemaVersion

/-! ## Texts -/

/-- `_json_object` reads the canonical form of an object the consumer wrote. -/
theorem jsonObject_deterministic {depth limit : Nat} {members : JsonObject} {field : PyStr}
    (more : depth ≤ limit) (held : Json.Decoded Decimal.Possible (.obj members) depth) :
    jsonObject limit (some (Cdc.deterministicJson (.obj members))) field =
      .ok (some (canonicalObject members)) := by
  unfold jsonObject Cdc.deterministicJson
  dsimp only
  rw [Json.loads_dumps (held.deeper more)]
  rfl

/-- The canonical form of an object is its own canonical form. -/
theorem canonicalObject_canonicalObject {depth : Nat} {members : JsonObject}
    (held : Json.Decoded Decimal.Possible (.obj members) depth) :
    canonicalObject (canonicalObject members) = canonicalObject members :=
  Json.obj.inj (Json.canonical_canonical held)

/-- The canonical form of an object has the text the consumer wrote. -/
theorem canonicalJson_canonicalObject {depth : Nat} {members : JsonObject}
    (held : Json.Decoded Decimal.Possible (.obj members) depth) :
    canonicalJson (.obj (canonicalObject members)) = Cdc.deterministicJson (.obj members) := by
  have same := Json.canonical_canonical held
  unfold canonicalJson Cdc.deterministicJson Json.dumps
  rw [← same]
  rfl

/-- What the normalizer reads from the column of a row state: the canonical form of an object,
nothing of nothing, and a rejection of everything else. -/
theorem jsonObject_state {depth limit : Nat} {state : Json} {field : PyStr}
    {found : Option JsonObject} (more : depth ≤ limit)
    (held : Json.Decoded Decimal.Possible state depth)
    (read : jsonObject limit (Cdc.stateText state) field = .ok found) :
    (state = .null ∧ found = none) ∨
      ∃ members, state = .obj members ∧ found = some (canonicalObject members) := by
  cases state with
  | null => exact Or.inl ⟨rfl, (Except.ok.inj read).symm⟩
  | obj members =>
    right
    refine ⟨members, rfl, ?_⟩
    exact (Except.ok.inj ((jsonObject_deterministic more held).symm.trans read)).symm
  | bool | int | decimal | nan | infinity | str | arr =>
    -- `json.loads` returns a value that is neither an object nor `None`
    exfalso
    unfold jsonObject Cdc.stateText Cdc.deterministicJson at read
    simp only [Json.isNull, Bool.false_eq_true, if_false,
      Json.loads_dumps (Json.Decoded.deeper more held), Json.canonical] at read
    cases read

/-- The text of what was read is the text of the column. -/
theorem state_text {depth limit : Nat} {state : Json} {field : PyStr}
    {found : Option JsonObject} (more : depth ≤ limit)
    (held : Json.Decoded Decimal.Possible state depth)
    (read : jsonObject limit (Cdc.stateText state) field = .ok found) :
    (found.map fun members => canonicalJson (.obj members)) = Cdc.stateText state := by
  rcases jsonObject_state more held read with ⟨rfl, rfl⟩ | ⟨members, rfl, rfl⟩
  · rfl
  · exact congrArg some (canonicalJson_canonicalObject held)

/-- The states of a normalized row are what `_json_object` read. -/
theorem normalizeRow_states {context : RunContext} {row : BronzeRow} {event : NormalizedCdcEvent}
    (normalized : normalizeRow context row = .ok event) :
    jsonObject context.recursionLimit row.beforeJson "before_json" = .ok event.before ∧
      jsonObject context.recursionLimit row.afterJson "after_json" = .ok event.after ∧
      event.operation = row.operation.getD [] := by
  unfold normalizeRow at normalized
  split at normalized
  · cases normalized
  rename_i identity identified
  split at normalized
  · cases normalized
  rename_i completed
  obtain rfl := Except.ok.inj normalized
  have states : jsonObject context.recursionLimit row.beforeJson "before_json" =
      .ok identity.before ∧
      jsonObject context.recursionLimit row.afterJson "after_json" = .ok identity.after := by
    unfold identify at identified
    dsimp only at identified
    split at identified
    · cases identified
    split at identified
    · cases identified
    obtain ⟨_, -, identified⟩ := bind_eq_ok.mp identified
    obtain ⟨_, -, identified⟩ := bind_eq_ok.mp identified
    split at identified
    · cases identified
    obtain ⟨before, old, identified⟩ := bind_eq_ok.mp identified
    obtain ⟨after, new, identified⟩ := bind_eq_ok.mp identified
    obtain ⟨_, -, identified⟩ := bind_eq_ok.mp identified
    obtain ⟨_, -, identified⟩ := bind_eq_ok.mp identified
    obtain ⟨_, -, identified⟩ := bind_eq_ok.mp identified
    obtain rfl := Except.ok.inj identified
    exact ⟨old, new⟩
  unfold complete at completed
  obtain ⟨_, -, completed⟩ := bind_eq_ok.mp completed
  obtain ⟨_, -, completed⟩ := bind_eq_ok.mp completed
  obtain ⟨_, -, completed⟩ := bind_eq_ok.mp completed
  split at completed
  · cases completed
  · obtain rfl := Except.ok.inj completed
    exact ⟨states.1, states.2, rfl⟩

/-- The texts of an event are those of the Bronze record it was made from. -/
structure KeepsTexts (bronze : Cdc.BronzeEvent) (event : NormalizedCdcEvent) : Prop where
  /-- The old row. -/
  before : event.beforeJson = bronze.beforeJson
  /-- The new row. -/
  after : event.afterJson = bronze.afterJson
  /-- The business payload: the old row of a delete, nothing of a tombstone, else the new row. -/
  payload : event.businessPayloadJson =
    if bronze.operation = py "t" then none
    else if bronze.operation = py "d" then bronze.beforeJson else bronze.afterJson

/-- How a Kafka record reaches Silver: the consumer makes an event of it, and a run whose
interpreter can recurse as deep normalizes the row of the event. -/
structure Passes (parser : Cdc.ParserContext) (message : Cdc.RawKafkaMessage)
    (bronze : Cdc.BronzeEvent) (context : RunContext) (event : NormalizedCdcEvent) : Prop where
  /-- The consumer parses the record. -/
  parsed : ∃ observedAt today,
    Cdc.parseDebeziumMessage parser observedAt today message = .ok (.event bronze)
  /-- The run reads what the consumer can read. -/
  recursion : parser.recursionLimit ≤ context.recursionLimit
  /-- The row is normalized. -/
  normalized : normalizeRow context (bronzeRow bronze) = .ok event

variable {parser : Cdc.ParserContext} {message : Cdc.RawKafkaMessage} {bronze : Cdc.BronzeEvent}
  {context : RunContext} {event : NormalizedCdcEvent}

/-- The columns of the record are read from the envelope. -/
theorem Passes.reads (passes : Passes parser message bronze context event) :
    jsonObject context.recursionLimit
        (Cdc.stateText (Cdc.envelopeMember parser message "before")) "before_json" =
      .ok event.before ∧
    jsonObject context.recursionLimit
        (Cdc.stateText (Cdc.envelopeMember parser message "after")) "after_json" =
      .ok event.after ∧ event.operation = bronze.operation := by
  obtain ⟨observedAt, today, parsed⟩ := passes.parsed
  have states := Cdc.parse_states parsed
  obtain ⟨before, after, operation⟩ := normalizeRow_states passes.normalized
  rw [← states.before, ← states.after]
  exact ⟨before, after, operation⟩

/-- The texts of Bronze reach the event. -/
theorem Passes.texts (passes : Passes parser message bronze context event) :
    KeepsTexts bronze event := by
  obtain ⟨observedAt, today, parsed⟩ := passes.parsed
  have states := Cdc.parse_states parsed
  obtain ⟨before, after, operation⟩ := passes.reads
  have old : event.beforeJson = bronze.beforeJson := by
    rw [states.before]
    exact state_text passes.recursion (Cdc.envelopeMember_decoded parser message "before") before
  have new : event.afterJson = bronze.afterJson := by
    rw [states.after]
    exact state_text passes.recursion (Cdc.envelopeMember_decoded parser message "after") after
  refine ⟨old, new, ?_⟩
  unfold NormalizedCdcEvent.businessPayloadJson NormalizedCdcEvent.payload
  rw [← operation, ← old, ← new]
  split
  · rfl
  split
  · rfl
  · rfl

/-! ## Amounts -/

/-- The number of a JSON number token. -/
def tokenValue : Json → Option ℚ
  | .int number => some number
  | .decimal number => some number.toRat
  | _ => none

/-- A number with at most two fractional and sixteen integer digits. -/
def FitsColumn (number : ℚ) : Prop := (∃ cents : ℤ, number = cents / 100) ∧ |number| < 10 ^ 16

/-- A number the column can hold is decoded to itself. -/
theorem decodeParsed_exact {number : Decimal} (fits : FitsColumn number.toRat) :
    ∃ decoded, decodeParsed (.finite number) = .ok decoded ∧ decoded.toRat = number.toRat := by
  obtain ⟨⟨cents, whole⟩, below⟩ := fits
  have small : cents.natAbs < 10 ^ 18 := by
    rw [whole, abs_div, abs_of_pos (by norm_num : (0 : ℚ) < 100),
      div_lt_iff₀ (by norm_num)] at below
    have bound : ((cents.natAbs : ℕ) : ℚ) < (10 ^ 18 : ℕ) := by
      rw [Nat.cast_natAbs, Int.cast_abs]
      push_cast
      linarith
    exact_mod_cast bound
  obtain ⟨rounded, nearest, kept, -⟩ := decodeParsed_finite number
  rw [WholeCents.magnitude whole] at nearest
  obtain rfl := nearest.eq_of_natCast
  refine ⟨_, kept small, Decimal.toRat_eq_of_magnitude 2 rfl ?_⟩
  rw [WholeCents.magnitude whole]
  exact Decimal.magnitude_places number.negative _ 2

/-- The number of an integer. -/
theorem toRat_ofInt (number : Int) : (Decimal.ofInt number).toRat = number := by
  have signed : (Decimal.ofInt number).signed = number := by
    simp only [Decimal.signed, Decimal.ofInt, decide_eq_true_eq]
    split
    · omega
    · omega
  unfold Decimal.toRat
  rw [signed]
  simp [Decimal.ofInt]

/-- The canonical form of a number token that the column can hold is decoded to its number. -/
theorem decodeDecimal_token {token : Json} {number : ℚ} {depth : Nat}
    (held : Json.Decoded Decimal.Possible token depth) (value : tokenValue token = some number)
    (fits : FitsColumn number) :
    ∃ decoded, decodeDecimal token.canonical = .ok decoded ∧ decoded.toRat = number := by
  cases token with
  | int integer =>
    have same : (Decimal.ofInt integer).toRat = number :=
      (toRat_ofInt integer).trans (Option.some.inj value)
    rw [← same] at fits ⊢
    exact decodeParsed_exact fits
  | decimal decimal =>
    obtain rfl := Option.some.inj value
    obtain ⟨decoded, returned, same⟩ := decodeParsed_exact fits
    refine ⟨decoded, ?_, same⟩
    rw [← returned]
    exact @decodeMoney_reads (.text decimal.text) (.finite decimal) (parseDecimal_text held)
  | null | bool | nan | infinity | str | arr | obj => cases value

/-- Decoding the times leaves the other columns as they are. -/
theorem decodeTimestamps_get {payload : JsonObject} {fields : List PyStr} {row result : Columns}
    {name : PyStr} (apart : name ∉ fields)
    (decoded : decodeTimestamps payload fields row = .ok result) :
    result.get name = row.get name := by
  induction fields generalizing row with
  | nil => rw [← Except.ok.inj decoded]
  | cons field fields ih =>
    rw [List.mem_cons, not_or] at apart
    obtain ⟨time, -, decoded⟩ := bind_eq_ok.mp decoded
    rw [ih apart.2 decoded, Columns.get_set, if_neg apart.1]

/-- An entity with an amount has one of them, which is no time, and is neither a customer nor a
transaction event. -/
theorem decimalFields_single {entity : Entity} {field : PyStr}
    (member : field ∈ entity.decimalFields) :
    entity.decimalFields = [field] ∧ field ∉ entity.timestampFields ∧ entity ≠ .customers ∧
      entity ≠ .transactionEvents := by
  cases entity with
  | accounts | paymentTransactions | refunds =>
    obtain rfl := List.mem_singleton.mp member
    refine ⟨rfl, by decide, by decide, by decide⟩
  | customers | merchants | transactionEvents => cases member

/-- The projection of a payload whose amount decodes holds the amount. -/
theorem projectColumns_amount {entity : Entity} {payload : JsonObject} {field : PyStr}
    {amount : Decimal} {columns : Columns} (member : field ∈ entity.decimalFields)
    (present : (Json.get payload field).isNull = false)
    (decoded : decodeDecimal (Json.get payload field) = .ok amount)
    (projected : projectColumns entity payload = .ok columns) :
    columns.get field = .money amount := by
  obtain ⟨single, apart, noCustomer, noEvent⟩ := decimalFields_single member
  have amounts : ∀ row, decodeDecimals payload entity.decimalFields row =
      .ok (Columns.set field (.money amount) row) := by
    intro row
    rw [single, decodeDecimals, present]
    simp only [Bool.false_eq_true, if_false, decoded, bind, Except.bind, decodeDecimals]
  unfold projectColumns at projected
  simp only [noCustomer, noEvent, if_false, amounts] at projected
  obtain ⟨_, same, projected⟩ := bind_eq_ok.mp projected
  obtain rfl := Except.ok.inj same
  obtain ⟨row, times, projected⟩ := bind_eq_ok.mp projected
  obtain ⟨_, same, projected⟩ := bind_eq_ok.mp projected
  obtain rfl := Except.ok.inj same
  split at projected
  · cases projected
  · obtain rfl := Except.ok.inj projected
    rw [decodeTimestamps_get apart times, Columns.get_set, if_pos rfl]

/-- The state of the row a record carries: the old one of a delete, else the new one. -/
def rowState (parser : Cdc.ParserContext) (message : Cdc.RawKafkaMessage) (operation : PyStr) :
    Json :=
  Cdc.envelopeMember parser message (if operation = py "d" then "before" else "after")

/-- The payload of an event that passed is the canonical form of the state in the record. -/
theorem Passes.payload (passes : Passes parser message bronze context event) {members : JsonObject}
    (state : rowState parser message bronze.operation = .obj members) :
    event.payload = some (canonicalObject members) := by
  obtain ⟨observedAt, today, parsed⟩ := passes.parsed
  obtain ⟨before, after, operation⟩ := passes.reads
  have row : bronze.operation ≠ py "t" := by
    intro tombstone
    have empty := (Cdc.parse_states parsed).tombstone tombstone
    rw [rowState, Cdc.envelopeMember, empty] at state
    cases state
  unfold rowState at state
  unfold NormalizedCdcEvent.payload
  rw [operation, if_neg row]
  have object : ∀ {name field found}, Cdc.envelopeMember parser message name = .obj members →
      jsonObject context.recursionLimit (Cdc.stateText (Cdc.envelopeMember parser message name))
        field = .ok found → found = some (canonicalObject members) := by
    intro name field found own read
    rcases jsonObject_state passes.recursion (Cdc.envelopeMember_decoded parser message name)
      read with ⟨null, -⟩ | ⟨others, same, rfl⟩
    · rw [null] at own
      cases own
    · rw [own] at same
      rw [Json.obj.inj same]
  split
  · rename_i delete
    rw [if_pos delete] at state
    exact object state before
  · rename_i other
    rw [if_neg other] at state
    exact object state after

/-- An amount that the column can hold is decoded to its number, and the row holds it. -/
theorem Passes.amount (passes : Passes parser message bronze context event)
    {members : JsonObject} {field : PyStr} {number : ℚ}
    (state : rowState parser message bronze.operation = .obj members)
    (member : field ∈ event.entity.decimalFields)
    (value : tokenValue (Json.get members field) = some number) (fits : FitsColumn number) :
    ∃ amount, amount.toRat = number ∧
      decodeDecimal (Json.get (canonicalObject members) field) = .ok amount ∧
      ∀ row, projectEntityState event = .ok row → row.columns.get field = .money amount := by
  have held : Json.Decoded Decimal.Possible (.obj members) parser.recursionLimit := by
    rw [← state]
    exact Cdc.envelopeMember_decoded parser message _
  obtain ⟨amount, decoded, same⟩ := decodeDecimal_token (held.get field) value fits
  have read : Json.get (canonicalObject members) field = (Json.get members field).canonical :=
    Json.get_canonical held.2.1 field
  have present : (Json.get (canonicalObject members) field).isNull = false := by
    rw [read]
    cases token : Json.get members field with
    | int | decimal => rfl
    | null | bool | nan | infinity | str | arr | obj =>
      rw [token] at value
      cases value
  rw [← read] at decoded
  refine ⟨amount, same, decoded, fun row projected => ?_⟩
  unfold projectEntityState at projected
  rw [passes.payload state] at projected
  dsimp only at projected
  rw [canonicalObject_canonicalObject held] at projected
  obtain ⟨columns, found, rfl⟩ := map_eq_ok.mp projected
  exact projectColumns_amount member present decoded found

/-! ## Agreement -/

/-- The canonical texts of Bronze and Silver agree. -/
theorem canonical_json_agrees :
    (∀ {depth limit : Nat} {text field : PyStr} {members : JsonObject}, depth ≤ limit →
      Json.loads depth text = .ok (.obj members) →
        ∃ read, jsonObject limit (some (Cdc.deterministicJson (.obj members))) field =
            .ok (some read) ∧
          canonicalJson (.obj read) = Cdc.deterministicJson (.obj members)) ∧
    (∀ {parser message bronze context event}, Passes parser message bronze context event →
      KeepsTexts bronze event) ∧
    (∀ {depth limit : Nat} {text other : PyStr} {left right : Json},
      Json.loads depth text = .ok left → Json.loads limit other = .ok right →
        Json.Alike left right →
          Cdc.deterministicJson left = Cdc.deterministicJson right ∧
            canonicalJson left = canonicalJson right) ∧
    ∀ {parser message bronze context event members field number},
      Passes parser message bronze context event →
      rowState parser message bronze.operation = .obj members →
      field ∈ event.entity.decimalFields →
      tokenValue (Json.get members field) = some number → FitsColumn number →
        ∃ amount, amount.toRat = number ∧
          decodeDecimal (Json.get (canonicalObject members) field) = .ok amount ∧
          ∀ row, projectEntityState event = .ok row → row.columns.get field = .money amount := by
  refine ⟨?_, fun passes => passes.texts, ?_, fun passes => passes.amount⟩
  · intro depth limit text field members more read
    have held := Json.loads_decoded read
    exact ⟨canonicalObject members, jsonObject_deterministic more held,
      canonicalJson_canonicalObject held⟩
  · intro depth limit text other left right read _ alike
    have same := Json.canonical_eq_of_alike (Json.loads_decoded read) alike
    have texts : Json.dumps left = Json.dumps right := congrArg Json.render same
    exact ⟨texts, texts⟩

theorem bronzeVersion_safe : isName 127 (py "cdc-bronze-v1") = true := by decide

/-- The parser of a consumer with default settings. -/
def plainParser : Cdc.ParserContext := ⟨sha256, 100, "cdc-bronze-v1", bronzeVersion_safe⟩

/-- A change of a balance to 12.50. -/
def balanceRecord : Cdc.RawKafkaMessage where
  topic := "t.accounts"
  partition := 0
  offset := 7
  key := none
  value := some (utf8 (py (
    "\x7b\"op\":\"u\",\"source\":\x7b\"table\":\"accounts\",\"lsn\":1\x7d," ++
    "\"after\":\x7b\"balance\":12.50,\"account_id\":\"a\",\"customer_id\":\"b\"\x7d\x7d")))
  timestampMs := none

/-- Its state after the change. -/
def balanceState : JsonObject :=
  [("balance", .decimal ⟨false, 1250, -2⟩), ("account_id", .str "a"), ("customer_id", .str "b")]

/-- Its record in Bronze. -/
def balanceBronze : Option Cdc.BronzeEvent :=
  match Cdc.parseDebeziumMessage plainParser Instant.epoch Instant.epoch balanceRecord with
  | .ok (.event bronze) => some bronze
  | _ => none

/-- Its event. -/
def balanceEvent (bronze : Cdc.BronzeEvent) : Option NormalizedCdcEvent :=
  rowEvent sampleContext (bronzeRow bronze)

/-- The balance of the change is decoded to 12.50, and the texts of Bronze are kept. -/
theorem balance_arrives : ∃ bronze event,
    Passes plainParser balanceRecord bronze sampleContext event ∧
    KeepsTexts bronze event ∧
    ∃ amount, amount.toRat = 25 / 2 ∧
      decodeDecimal (Json.get (canonicalObject balanceState) "balance") = .ok amount ∧
      ∀ row, projectEntityState event = .ok row → row.columns.get "balance" = .money amount := by
  have outcome : (balanceBronze.bind fun bronze => (balanceEvent bronze).map fun event =>
      (bronze.operation, event.entity)) = some (py "u", .accounts) := by
    decide +kernel
  obtain ⟨bronze, parsed, outcome⟩ := Option.bind_eq_some_iff.mp outcome
  obtain ⟨event, normalized, outcome⟩ := Option.map_eq_some_iff.mp outcome
  obtain ⟨operation, entity⟩ := Prod.mk.inj outcome
  have passes : Passes plainParser balanceRecord bronze sampleContext event := by
    refine ⟨⟨Instant.epoch, Instant.epoch, ?_⟩, Nat.le_refl _, ?_⟩
    · unfold balanceBronze at parsed
      split at parsed
      · rename_i own returned
        rw [returned, Option.some.inj parsed]
      · cases parsed
    · unfold balanceEvent rowEvent at normalized
      split at normalized
      · rename_i own returned
        rw [returned, Option.some.inj normalized]
      · cases normalized
  have state : rowState plainParser balanceRecord bronze.operation = .obj balanceState := by
    rw [operation]
    decide +kernel
  have value : tokenValue (Json.get balanceState "balance") = some (25 / 2) := by
    change some (Decimal.toRat ⟨false, 1250, -2⟩) = _
    norm_num [Decimal.toRat, Decimal.signed]
  have fits : FitsColumn (25 / 2) := ⟨⟨1250, by norm_num⟩, by norm_num [abs_of_pos]⟩
  have member : py "balance" ∈ event.entity.decimalFields := by
    rw [entity]
    decide
  exact ⟨bronze, event, passes, canonical_json_agrees.2.1 passes,
    canonical_json_agrees.2.2.2 passes state member value fits⟩

end Silver

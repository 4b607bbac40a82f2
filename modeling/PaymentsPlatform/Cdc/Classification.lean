import PaymentsPlatform.Cdc.Envelope

/-!
# What a record is

The parser works in two stages. The `form` of a record depends on its value alone: a tombstone,
a heartbeat, a row change whose source block was read, or something malformed. The second stage
turns the form into an event or into evidence, and there reads the key, the timestamps and the
clock. Everything the parser can raise is one of a few hazards of the input.
-/

namespace Cdc

open Python

/-- What the value of a record was recognised as. -/
inductive Form
  | tombstone
  | heartbeat
  | row (rawText operation : PyStr) (payload source : List (PyStr × Json))
      (numbers : Option Int × Option Int × Option Int × Option Int)
  | malformed (code text : PyStr)

/-- The form of an envelope with a source block. -/
def rowForm (rawText operation : PyStr) (payload source : List (PyStr × Json)) :
    Except PyError Form :=
  if (Json.get source "table").isNull ∨ (Json.get source "lsn").isNull then
    .ok (.malformed "MISSING_SOURCE_COORDINATES" "Debezium source table or LSN is missing")
  else if operation = py "d" ∧ (Json.get payload "before").isNull then
    .ok (.malformed "INVALID_DELETE" "Delete event must retain before state")
  else if operation ≠ py "d" ∧ (Json.get payload "after").isNull then
    .ok (.malformed "INVALID_AFTER" "Non-delete event must contain after state")
  else match sourceNumbers source payload with
    | .ok numbers => .ok (.row rawText operation payload source numbers)
    | .error problem =>
      if problem.kind = .valueError then
        .ok (.malformed "INVALID_SOURCE_METADATA"
          "Debezium source coordinate or timestamp is invalid")
      else .error problem

/-- The form of a payload. -/
def payloadForm (rawText : PyStr) (payload : List (PyStr × Json)) : Except PyError Form :=
  match Json.get payload "op" with
  | .str operation =>
    if operation ∉ supportedOperations then
      .ok (.malformed "UNSUPPORTED_OPERATION" "Debezium operation is absent or unsupported")
    else match Json.get payload "source" with
      | .obj source => rowForm rawText operation payload source
      | _ => .ok (.malformed "MISSING_SOURCE" "Debezium source metadata is missing")
  | .null =>
    if (Json.member? payload "ts_ms").isSome then .ok .heartbeat
    else .ok (.malformed "UNSUPPORTED_OPERATION" "Debezium operation is absent or unsupported")
  | .arr _ | .obj _ => .error ⟨.typeError, py "unhashable type"⟩
  | _ => .ok (.malformed "UNSUPPORTED_OPERATION" "Debezium operation is absent or unsupported")

/-- The form of a record. -/
def form (context : ParserContext) (message : RawKafkaMessage) : Except PyError Form :=
  match message.value with
  | none => .ok .tombstone
  | some value =>
    match decodeJson context value with
    | .error problem =>
      if problem.kind = .unicodeDecodeError then
        .ok (.malformed "MALFORMED_ENCODING" "Value is not valid UTF-8")
      else if problem.kind = .jsonDecodeError then
        .ok (.malformed "MALFORMED_JSON" "Value is not valid JSON")
      else .error problem
    | .ok (.obj document, rawText) =>
      match (Json.member? document "payload").getD (.obj document) with
      | .obj payload => payloadForm rawText payload
      | _ => .ok (.malformed "MISSING_PAYLOAD" "Debezium payload is missing")
    | .ok _ => .ok (.malformed "INVALID_ENVELOPE" "CDC value must be a JSON object")

/-- What the parser returns for a form. -/
def finishForm (context : ParserContext) (observedAt today : Instant) (message : RawKafkaMessage) :
    Form → Except PyError ParsedMessage
  | .tombstone => (tombstoneEvent context observedAt today message).map .event
  | .heartbeat => .ok .heartbeat
  | .row rawText operation payload source numbers =>
    (rowEvent context observedAt today message rawText operation source
      (Json.get payload "before") (Json.get payload "after") numbers).map .event
  | .malformed code text => poison context message code text

/-- The parser finds the form first. -/
theorem parseRow_eq (context : ParserContext) (observedAt today : Instant)
    (message : RawKafkaMessage) (rawText operation : PyStr)
    (payload source : List (PyStr × Json)) :
    parseRow context observedAt today message rawText operation payload source =
      (rowForm rawText operation payload source).bind
        (finishForm context observedAt today message) := by
  simp only [parseRow, rowForm]
  split
  · rfl
  split
  · rfl
  split
  · rfl
  cases sourceNumbers source payload with
  | ok numbers => rfl
  | error problem =>
    simp only
    split
    · rfl
    · rfl

/-- The same for a payload. -/
theorem parsePayload_eq (context : ParserContext) (observedAt today : Instant)
    (message : RawKafkaMessage) (rawText : PyStr) (payload : List (PyStr × Json)) :
    parsePayload context observedAt today message rawText payload =
      (payloadForm rawText payload).bind (finishForm context observedAt today message) := by
  unfold parsePayload payloadForm
  cases Json.get payload "op" with
  | str operation =>
    simp only
    split
    · rfl
    · cases Json.get payload "source" with
      | obj source => exact parseRow_eq ..
      | _ => rfl
  | null =>
    simp only
    split
    · rfl
    · rfl
  | _ => rfl

/-- The same for a whole value. -/
theorem parseValue_eq (context : ParserContext) (observedAt today : Instant)
    (message : RawKafkaMessage) :
    parseValue context observedAt today message =
      (form context message).bind (finishForm context observedAt today message) := by
  unfold parseValue form
  cases message.value with
  | none => rfl
  | some value =>
    simp only
    cases decodeJson context value with
    | error problem =>
      simp only
      split
      · rfl
      · split
        · rfl
        · rfl
    | ok decoded =>
      obtain ⟨document, rawText⟩ := decoded
      cases document with
      | obj members =>
        simp only
        cases (Json.member? members "payload").getD (.obj members) with
        | obj payload => exact parsePayload_eq ..
        | _ => rfl
      | _ => rfl

/-- What the parser returns, by form. -/
theorem parse_form {context : ParserContext} {observedAt today : Instant}
    {message : RawKafkaMessage} {meaning : ParsedMessage} :
    parseDebeziumMessage context observedAt today message = .ok meaning ↔
      writeIdentity [message.partition, message.offset] [message.topic] = .ok () ∧
        ∃ shape, form context message = .ok shape ∧
          finishForm context observedAt today message shape = .ok meaning := by
  rw [parse_ok_iff, parseValue_eq]
  cases form context message with
  | error problem => simp [Except.bind]
  | ok shape => simp [Except.bind]

/-! ## What can raise -/

/-- If the bytes are not JSON, this is one of the two errors the parser expects. Integers of more
than 4300 digits, impossible exponents and containers nested too deeply are others. -/
def Readable (context : ParserContext) (bytes : Bytes) : Prop :=
  ∀ problem, decodeJson context bytes = .error problem →
    problem.kind = .unicodeDecodeError ∨ problem.kind = .jsonDecodeError

/-- The timestamp has a date. -/
def InCalendar (timestampMs : Int) : Prop := ∃ instant, fromTimestamp timestampMs 1000 = .ok instant

/-- The payload of a record: the decoded object, or its member of that name. -/
def payloadOf (context : ParserContext) (message : RawKafkaMessage) :
    Option (List (PyStr × Json)) := do
  let value ← message.value
  match decodeJson context value with
  | .ok (.obj document, _) =>
    match (Json.member? document "payload").getD (.obj document) with
    | .obj payload => some payload
    | _ => none
  | _ => none

/-- A list or an object, which has no hash. -/
def isContainer : Json → Bool
  | .arr _ | .obj _ => true
  | _ => false

/-- A row change with all its parts. -/
structure RowChange (payload : List (PyStr × Json)) (operation : PyStr)
    (source : List (PyStr × Json)) : Prop where
  /-- The operation. -/
  named : Json.get payload "op" = .str operation
  /-- It is one Debezium emits for rows. -/
  supported : operation ∈ supportedOperations
  /-- The source block. -/
  block : Json.get payload "source" = .obj source
  /-- It names the table. -/
  table : (Json.get source "table").isNull = false
  /-- It has a log position. -/
  lsn : (Json.get source "lsn").isNull = false
  /-- A delete has the row before. -/
  before : operation = py "d" → (Json.get payload "before").isNull = false
  /-- The others have the row after. -/
  after : operation ≠ py "d" → (Json.get payload "after").isNull = false

/-- The timestamps an event is dated by, in order of preference. -/
def Form.timestamps (message : RawKafkaMessage) : Form → Option (List (Option Int))
  | .tombstone => some [message.timestampMs]
  | .row _ _ _ _ (_, _, tsMs, connectorTsMs) => some [tsMs, connectorTsMs, message.timestampMs]
  | _ => none

/-- The inputs on which the parser raises. -/
inductive Hazard (context : ParserContext) (message : RawKafkaMessage) : Prop
  /-- The coordinates cannot be written out and encoded. -/
  | coordinates
      (unwritten : writeIdentity [message.partition, message.offset] [message.topic] ≠ .ok ())
  /-- The value is refused by the JSON reader in an unexpected way. -/
  | value (bytes : Bytes) (there : message.value = some bytes)
      (unreadable : ¬ Readable context bytes)
  /-- The operation is a list or an object. -/
  | operation (payload : List (PyStr × Json)) (there : payloadOf context message = some payload)
      (container : isContainer (Json.get payload "op") = true)
  /-- The first source number that is not an integer is infinite. -/
  | number (payload source : List (PyStr × Json)) (operation : PyStr) (problem : PyError)
      (there : payloadOf context message = some payload)
      (row : RowChange payload operation source)
      (unconverted : sourceNumbers source payload = .error problem)
      (overflow : problem.kind ≠ .valueError)
  /-- The key of an event is refused by the JSON reader in an unexpected way. -/
  | key (shape : Form) (stamps : List (Option Int)) (bytes : Bytes)
      (formed : form context message = .ok shape)
      (event : shape.timestamps message = some stamps)
      (there : message.key = some bytes) (unreadable : ¬ Readable context bytes)
  /-- The timestamp that dates an event is outside the calendar. -/
  | date (shape : Form) (stamps : List (Option Int)) (selected : Int)
      (formed : form context message = .ok shape)
      (event : shape.timestamps message = some stamps)
      (first : stamps.findSome? id = some selected) (outside : ¬ InCalendar selected)
  /-- The timestamp of a malformed record is outside the calendar. -/
  | failure (code text : PyStr) (timestamp : Int)
      (formed : form context message = .ok (.malformed code text))
      (there : message.timestampMs = some timestamp) (outside : ¬ InCalendar timestamp)

/-- When the key of an event can be read. -/
theorem keyJson_ok_iff {context : ParserContext} {key : Option Bytes} :
    (∃ text, keyJson context key = .ok text) ↔ ∀ bytes, key = some bytes →
      Readable context bytes := by
  cases key with
  | none => simp [keyJson]
  | some bytes =>
    simp only [keyJson, Option.some.injEq, forall_eq']
    cases decoded : decodeJson context bytes with
    | ok value =>
      simp only [Except.ok.injEq, exists_eq', true_iff]
      intro problem failed
      rw [decoded] at failed
      cases failed
    | error problem =>
      simp only
      by_cases expected :
          problem.kind = .unicodeDecodeError ∨ problem.kind = .jsonDecodeError
      · rw [if_pos expected]
        refine iff_of_true ⟨_, rfl⟩ ?_
        intro other failed
        rw [decoded] at failed
        obtain rfl := Except.error.inj failed
        exact expected
      · rw [if_neg expected]
        refine iff_of_false (by simp) ?_
        intro readable
        exact expected (readable problem decoded)

/-- When an event can be dated; the clock does not matter. -/
theorem eventDate_ok_iff {today : Instant} {stamps : List (Option Int)} :
    (∃ date, eventDate today stamps = .ok date) ↔
      ∀ selected, stamps.findSome? id = some selected → InCalendar selected := by
  unfold eventDate
  cases stamps.findSome? id with
  | none => simp
  | some selected =>
    simp only [Option.some.injEq, forall_eq', InCalendar]
    cases fromTimestamp selected 1000 with
    | error problem => simp [Except.map]
    | ok instant => simp [Except.map]

/-- When the failure of a record can be dated. -/
theorem failureTime_ok_iff {timestamp : Option Int} :
    (∃ instant, failureTime timestamp = .ok instant) ↔
      ∀ stamp, timestamp = some stamp → InCalendar stamp := by
  cases timestamp with
  | none => simp [failureTime]
  | some stamp => simp [failureTime, InCalendar]

/-- When the event of a form is built: its key can be read and its date can be told. -/
theorem finishForm_event_iff {context : ParserContext} {observedAt today : Instant}
    {message : RawKafkaMessage} {shape : Form} {stamps : List (Option Int)}
    (event : shape.timestamps message = some stamps) :
    (∃ meaning, finishForm context observedAt today message shape = .ok meaning) ↔
      (∃ text, keyJson context message.key = .ok text) ∧
        ∃ date, eventDate today stamps = .ok date := by
  cases shape with
  | heartbeat => cases event
  | malformed code text => cases event
  | tombstone =>
    obtain rfl := Option.some.inj event
    simp only [finishForm, tombstoneEvent]
    cases keyJson context message.key with
    | error problem => simp [bind, Except.bind, Except.map]
    | ok text =>
      cases eventDate today [message.timestampMs] with
      | error problem => simp [bind, Except.bind, Except.map]
      | ok date => simp [bind, Except.bind, Except.map]
  | row rawText operation payload source numbers =>
    obtain ⟨lsn, txId, tsMs, connectorTsMs⟩ := numbers
    obtain rfl := Option.some.inj event
    simp only [finishForm, rowEvent]
    cases keyJson context message.key with
    | error problem => simp [bind, Except.bind, Except.map]
    | ok text =>
      cases eventDate today [tsMs, connectorTsMs, message.timestampMs] with
      | error problem => simp [bind, Except.bind, Except.map]
      | ok date => simp [bind, Except.bind, Except.map]

/-- When the evidence of a malformed record is built. -/
theorem finishForm_malformed_iff {context : ParserContext} {observedAt today : Instant}
    {message : RawKafkaMessage} {code text : PyStr} :
    (∃ meaning, finishForm context observedAt today message (.malformed code text) = .ok meaning) ↔
      ∃ instant, failureTime message.timestampMs = .ok instant := by
  simp only [finishForm, poison]
  cases failureTime message.timestampMs with
  | error problem => simp [bind, Except.bind]
  | ok instant => simp [bind, Except.bind]

/-- The form of a value that was decoded is the form of its payload, or it is malformed. -/
theorem form_of_payload {context : ParserContext} {message : RawKafkaMessage}
    {payload : List (PyStr × Json)} (there : payloadOf context message = some payload) :
    ∃ rawText, form context message = payloadForm rawText payload := by
  unfold payloadOf at there
  unfold form
  cases value : message.value with
  | none => simp [value] at there
  | some bytes =>
    simp only [value, Option.bind_eq_bind, Option.bind_some] at there ⊢
    split at there
    · rename_i document rawText decoded
      split at there
      · rename_i members found
        obtain rfl := Option.some.inj there
        refine ⟨rawText, ?_⟩
        simp only [decoded, found]
      · cases there
    · cases there

/-- The form of a row change depends on its numbers. -/
theorem payloadForm_row {payload source : List (PyStr × Json)} {operation : PyStr}
    (row : RowChange payload operation source) (rawText : PyStr) :
    payloadForm rawText payload = match sourceNumbers source payload with
      | .ok numbers => .ok (.row rawText operation payload source numbers)
      | .error problem =>
        if problem.kind = .valueError then
          .ok (.malformed "INVALID_SOURCE_METADATA"
            "Debezium source coordinate or timestamp is invalid")
        else .error problem := by
  have known : ¬ operation ∉ supportedOperations := not_not.mpr row.supported
  have placed : ¬ ((Json.get source "table").isNull = true ∨
      (Json.get source "lsn").isNull = true) := by
    simp [row.table, row.lsn]
  have before : ¬ (operation = py "d" ∧ (Json.get payload "before").isNull = true) := by
    rintro ⟨delete, null⟩
    rw [row.before delete] at null
    cases null
  have after : ¬ (operation ≠ py "d" ∧ (Json.get payload "after").isNull = true) := by
    rintro ⟨other, null⟩
    rw [row.after other] at null
    cases null
  simp only [payloadForm, row.named, if_neg known, row.block, rowForm, if_neg placed,
    if_neg before, if_neg after]

/-- A payload whose form is not found is a hazard. -/
theorem hazard_of_payload {context : ParserContext} {message : RawKafkaMessage}
    {problem : PyError} {payload : List (PyStr × Json)} {rawText : PyStr}
    (there : payloadOf context message = some payload)
    (failed : payloadForm rawText payload = .error problem) : Hazard context message := by
  unfold payloadForm at failed
  cases op : Json.get payload "op" with
  | str operation =>
    simp only [op] at failed
    split at failed
    · cases failed
    · rename_i supported
      cases block : Json.get payload "source" with
      | obj source =>
        simp only [block, rowForm] at failed
        split at failed
        · cases failed
        split at failed
        · cases failed
        split at failed
        · cases failed
        rename_i placed before after
        simp only [not_or, Bool.not_eq_true, not_and] at placed before after
        split at failed
        · cases failed
        · rename_i raised unconverted
          split at failed
          · cases failed
          · rename_i overflow
            exact .number payload source operation raised there
              ⟨op, not_not.mp supported, block, placed.1, placed.2, before, after⟩
              unconverted overflow
      | _ => simp [block] at failed
  | null =>
    simp only [op] at failed
    split at failed
    · cases failed
    · cases failed
  | arr items => exact .operation payload there (by simp [op, isContainer])
  | obj members => exact .operation payload there (by simp [op, isContainer])
  | _ => simp [op] at failed

/-- A record whose form is not found is a hazard. -/
theorem hazard_of_form {context : ParserContext} {message : RawKafkaMessage} {problem : PyError}
    (failed : form context message = .error problem) : Hazard context message := by
  unfold form at failed
  cases value : message.value with
  | none => simp [value] at failed
  | some bytes =>
    simp only [value] at failed
    cases decoded : decodeJson context bytes with
    | error raised =>
      refine .value bytes value fun readable => ?_
      simp only [decoded] at failed
      rcases readable raised decoded with unicode | json
      · rw [if_pos unicode] at failed
        cases failed
      · rw [if_neg (by rw [json]; decide), if_pos json] at failed
        cases failed
    | ok document =>
      obtain ⟨document, rawText⟩ := document
      rw [decoded] at failed
      cases document with
      | obj members =>
        simp only at failed
        cases found : (Json.member? members "payload").getD (.obj members) with
        | obj payload =>
          have there : payloadOf context message = some payload := by
            simp [payloadOf, value, decoded, found]
          rw [found] at failed
          exact hazard_of_payload there failed
        | _ => simp [found] at failed
      | _ => simp at failed

/-- A hazard is not survived. -/
theorem Hazard.raises {context : ParserContext} {message : RawKafkaMessage}
    (hazard : Hazard context message) (observedAt today : Instant) (meaning : ParsedMessage) :
    parseDebeziumMessage context observedAt today message ≠ .ok meaning := by
  intro returned
  obtain ⟨written, shape, formed, finished⟩ := parse_form.mp returned
  cases hazard with
  | coordinates unwritten => exact unwritten written
  | value bytes there unreadable =>
    refine unreadable fun problem failed => ?_
    simp only [form, there, failed] at formed
    split at formed
    · rename_i unicode
      exact Or.inl unicode
    · split at formed
      · rename_i json
        exact Or.inr json
      · cases formed
  | operation payload there container =>
    obtain ⟨rawText, same⟩ := form_of_payload there
    rw [same] at formed
    unfold payloadForm at formed
    cases op : Json.get payload "op" with
    | arr items => simp [op] at formed
    | obj members => simp [op] at formed
    | _ => simp [op, isContainer] at container
  | number payload source operation problem there row unconverted overflow =>
    obtain ⟨rawText, same⟩ := form_of_payload there
    rw [same, payloadForm_row row, unconverted] at formed
    simp [overflow] at formed
  | key shape' stamps bytes formed' event there unreadable =>
    obtain rfl := Except.ok.inj (formed.symm.trans formed')
    obtain ⟨read, -⟩ := (finishForm_event_iff event).mp ⟨meaning, finished⟩
    exact unreadable (keyJson_ok_iff.mp read bytes there)
  | date shape' stamps selected formed' event first outside =>
    obtain rfl := Except.ok.inj (formed.symm.trans formed')
    obtain ⟨-, dated⟩ := (finishForm_event_iff event).mp ⟨meaning, finished⟩
    exact outside (eventDate_ok_iff.mp dated selected first)
  | failure code text timestamp formed' there outside =>
    obtain rfl := Except.ok.inj (formed.symm.trans formed')
    have dated := finishForm_malformed_iff.mp ⟨meaning, finished⟩
    exact outside (failureTime_ok_iff.mp dated timestamp there)

/-- Without a hazard the parser returns, whatever the clocks show. -/
theorem parse_returns {context : ParserContext} {message : RawKafkaMessage}
    (safe : ¬ Hazard context message) (observedAt today : Instant) :
    ∃ meaning, parseDebeziumMessage context observedAt today message = .ok meaning := by
  have written : writeIdentity [message.partition, message.offset] [message.topic] = .ok () := by
    by_contra unwritten
    exact safe (.coordinates unwritten)
  cases formed : form context message with
  | error problem => exact absurd (hazard_of_form formed) safe
  | ok shape =>
    have finished :
        ∃ meaning, finishForm context observedAt today message shape = .ok meaning := by
      cases stamped : shape.timestamps message with
      | some stamps =>
        refine (finishForm_event_iff stamped).mpr ⟨keyJson_ok_iff.mpr ?_, eventDate_ok_iff.mpr ?_⟩
        · intro bytes there
          by_contra unreadable
          exact safe (.key shape stamps bytes formed stamped there unreadable)
        · intro selected first
          by_contra outside
          exact safe (.date shape stamps selected formed stamped first outside)
      | none =>
        cases shape with
        | tombstone => cases stamped
        | row rawText operation payload source numbers => cases stamped
        | heartbeat => exact ⟨.heartbeat, rfl⟩
        | malformed code text =>
          refine finishForm_malformed_iff.mpr (failureTime_ok_iff.mpr ?_)
          intro timestamp there
          by_contra outside
          exact safe (.failure code text timestamp formed there outside)
    obtain ⟨meaning, finished⟩ := finished
    exact ⟨meaning, parse_form.mpr ⟨written, shape, formed, finished⟩⟩

/-- The class of what the parser makes of a form. -/
def Form.kind : Form → ParseKind
  | .tombstone | .row .. => .event
  | .heartbeat => .heartbeat
  | .malformed .. => .poison

/-- The class depends on the form only. -/
theorem finishForm_kind {context : ParserContext} {observedAt today : Instant}
    {message : RawKafkaMessage} {shape : Form} {meaning : ParsedMessage}
    (finished : finishForm context observedAt today message shape = .ok meaning) :
    meaning.kind = shape.kind := by
  cases shape with
  | heartbeat =>
    obtain rfl := Except.ok.inj finished
    rfl
  | tombstone =>
    simp only [finishForm] at finished
    cases built : tombstoneEvent context observedAt today message with
    | error problem => simp [built, Except.map] at finished
    | ok event =>
      rw [built] at finished
      obtain rfl := Except.ok.inj finished
      rfl
  | row rawText operation payload source numbers =>
    simp only [finishForm] at finished
    cases built : rowEvent context observedAt today message rawText operation source
        (Json.get payload "before") (Json.get payload "after") numbers with
    | error problem => simp [built, Except.map] at finished
    | ok event =>
      rw [built] at finished
      obtain rfl := Except.ok.inj finished
      rfl
  | malformed code text =>
    simp only [finishForm, poison] at finished
    cases dated : failureTime message.timestampMs with
    | error problem => simp [dated, bind, Except.bind] at finished
    | ok failedAt =>
      rw [dated] at finished
      obtain rfl := Except.ok.inj finished
      rfl

/-- Evidence carries the original bytes. -/
theorem parse_evidence {context : ParserContext} {observedAt today : Instant}
    {message : RawKafkaMessage} {evidence : PoisonEvent}
    (parsed : parseDebeziumMessage context observedAt today message = .ok (.poison evidence)) :
    evidence.rawValue = bytesAsBase64 message.value ∧
      evidence.originalKey = bytesAsBase64 message.key := by
  obtain ⟨-, shape, -, finished⟩ := parse_form.mp parsed
  have kind := finishForm_kind finished
  cases shape with
  | heartbeat => cases kind
  | tombstone => cases kind
  | row rawText operation payload source numbers => cases kind
  | malformed code text =>
    simp only [finishForm, poison] at finished
    cases dated : failureTime message.timestampMs with
    | error problem => simp [dated, bind, Except.bind] at finished
    | ok failedAt =>
      rw [dated] at finished
      obtain rfl := ParsedMessage.poison.inj (Except.ok.inj finished)
      exact ⟨rfl, rfl⟩

/-- The record is classified, whatever the clocks show: the parser returns one of the three
classes, and evidence carries the original bytes in base64. -/
def Classified (context : ParserContext) (message : RawKafkaMessage) : Prop :=
  ∀ observedAt today, ∃ meaning,
    parseDebeziumMessage context observedAt today message = .ok meaning ∧
      ∀ evidence, meaning = .poison evidence →
        evidence.rawValue = bytesAsBase64 message.value ∧
          evidence.originalKey = bytesAsBase64 message.key

/-- A parser with the default schema version. -/
def defaultParser : ParserContext where
  sha := sha256
  recursionLimit := 1000
  schemaVersion := "cdc-bronze-v1"
  schemaVersion_safe := by decide

/-- A record of the first partition of the customers with a value and no key. -/
def customerRecord (value : PyStr) : RawKafkaMessage where
  topic := "fintech.cdc.payments.customers"
  partition := 0
  offset := 7
  key := none
  value := some (utf8 value)
  timestampMs := some 1700000000000

/-- A tombstone with its timestamp, if the broker reports one. -/
def customerTombstone (timestampMs : Option Int) : RawKafkaMessage where
  topic := "fintech.cdc.payments.customers"
  partition := 0
  offset := 7
  key := none
  value := none
  timestampMs

/-- The payload carries a row or says where one comes from. -/
def CarriesRow (payload : List (PyStr × Json)) : Prop :=
  (Json.get payload "before").isNull = false ∨ (Json.get payload "after").isNull = false ∨
    (Json.get payload "source").isNull = false

/-- A payload without operation but with a connector clock reads as a heartbeat. -/
def Beats (payload : List (PyStr × Json)) : Prop :=
  (Json.get payload "op").isNull = true ∧ (Json.member? payload "ts_ms").isSome = true

/-- Which payloads are heartbeats. -/
theorem payloadForm_heartbeat {rawText : PyStr} {payload : List (PyStr × Json)} :
    payloadForm rawText payload = .ok .heartbeat ↔ Beats payload := by
  unfold payloadForm Beats
  cases op : Json.get payload "op" with
  | null =>
    simp only [Json.isNull, true_and]
    split
    · rename_i stamped
      exact iff_of_true rfl stamped
    · rename_i unstamped
      exact iff_of_false (by simp) unstamped
  | str operation =>
    refine iff_of_false ?_ (by simp [Json.isNull])
    simp only
    split
    · simp
    · split
      · simp only [rowForm]
        split
        · simp
        split
        · simp
        split
        · simp
        split
        · simp
        split
        · simp
        · simp
      · simp
  | _ => exact iff_of_false (by simp) (by simp [Json.isNull])

/-- The form of a heartbeat is that of its payload. -/
theorem form_heartbeat {context : ParserContext} {message : RawKafkaMessage} :
    form context message = .ok .heartbeat ↔
      ∃ payload, payloadOf context message = some payload ∧ Beats payload := by
  constructor
  · intro formed
    unfold form at formed
    cases value : message.value with
    | none => simp [value] at formed
    | some bytes =>
      simp only [value] at formed
      split at formed
      · split at formed
        · cases formed
        · split at formed
          · cases formed
          · cases formed
      · rename_i document rawText decoded
        split at formed
        · rename_i payload found
          refine ⟨payload, ?_, payloadForm_heartbeat.mp formed⟩
          simp [payloadOf, value, decoded, found]
        · cases formed
      · cases formed
  · rintro ⟨payload, there, beats⟩
    obtain ⟨rawText, same⟩ := form_of_payload there
    rw [same]
    exact payloadForm_heartbeat.mpr beats

/-- Which records are heartbeats; the clocks do not matter. -/
theorem parse_heartbeat_iff {context : ParserContext} {observedAt today : Instant}
    {message : RawKafkaMessage} :
    parseDebeziumMessage context observedAt today message = .ok .heartbeat ↔
      writeIdentity [message.partition, message.offset] [message.topic] = .ok () ∧
        ∃ payload, payloadOf context message = some payload ∧ Beats payload := by
  rw [parse_form, ← form_heartbeat]
  refine and_congr_right fun _ => ?_
  constructor
  · rintro ⟨shape, formed, finished⟩
    have kind := finishForm_kind finished
    cases shape with
    | heartbeat => exact formed
    | tombstone => cases kind
    | row rawText operation payload source numbers => cases kind
    | malformed code text => cases kind
  · intro formed
    exact ⟨.heartbeat, formed, rfl⟩

/-- A record with row data is not taken for a heartbeat, whatever the clocks show. -/
def NeverHeartbeat (context : ParserContext) (message : RawKafkaMessage) : Prop :=
  ∀ payload, payloadOf context message = some payload → CarriesRow payload →
    ∀ observedAt today,
      parseDebeziumMessage context observedAt today message ≠ .ok .heartbeat

/-- A record that can be identified and carries row data has an operation or no connector
clock. -/
def Operated (context : ParserContext) (message : RawKafkaMessage) : Prop :=
  writeIdentity [message.partition, message.offset] [message.topic] = .ok () →
    ∀ payload, payloadOf context message = some payload → CarriesRow payload → ¬ Beats payload

/-- Row data is taken for a heartbeat exactly when it comes without an operation and with a
connector clock. -/
theorem neverHeartbeat_iff {context : ParserContext} {message : RawKafkaMessage} :
    NeverHeartbeat context message ↔ Operated context message := by
  constructor
  · intro never written payload there carries beats
    exact never payload there carries Instant.epoch Instant.epoch
      (parse_heartbeat_iff.mpr ⟨written, payload, there, beats⟩)
  · intro operated payload there carries observedAt today parsed
    obtain ⟨written, other, found, beats⟩ := parse_heartbeat_iff.mp parsed
    obtain rfl := Option.some.inj (there.symm.trans found)
    exact operated written payload there carries beats

/-- A row without operation whose connector clock is set reads as a heartbeat. -/
theorem row_without_operation_beats :
    ¬ NeverHeartbeat defaultParser
      (customerRecord (py "\x7b\"ts_ms\":1,\"after\":\x7b\"id\":1\x7d\x7d")) := by
  intro never
  refine never [(py "ts_ms", .int 1), (py "after", .obj [(py "id", .int 1)])] ?_ ?_
    Instant.epoch Instant.epoch ?_
  · decide +kernel
  · exact Or.inr (Or.inl (by decide +kernel))
  · decide +kernel

end Cdc

import PaymentsPlatform.Cdc.Models
import PaymentsPlatform.Python.Repr

/-!
# Debezium envelopes

`parse_debezium_message` classifies one Kafka record as a Bronze event, a heartbeat or poison
evidence. It can also raise, and the consumer loop then stops: integers of more than 4300
digits, decimals with an impossible exponent, values nested too deeply and timestamps
outside the calendar are not turned into poison.
-/

namespace Cdc

open Python

/-- What the parser takes from its surroundings: the digest function, the recursion the
interpreter has left, and the Bronze schema version of the settings. -/
structure ParserContext where
  /-- SHA-256. -/
  sha : Sha256
  /-- Nested JSON containers before `RecursionError`. -/
  recursionLimit : Nat
  /-- `settings.schema_version`. -/
  schemaVersion : PyStr
  /-- The settings admit only a safe name. -/
  schemaVersion_safe : isName 127 schemaVersion = true

/-- The operations Debezium emits for rows. -/
def supportedOperations : List PyStr := ["r", "c", "u", "d"]

/-- `_decode_json`: the decoded document and its text. -/
def decodeJson (context : ParserContext) (value : Bytes) : Except PyError (Json × PyStr) :=
  match decodeUtf8 value with
  | none => .error ⟨.unicodeDecodeError, py "invalid utf-8"⟩
  | some text => (Json.loads context.recursionLimit text).map fun document => (document, text)

/-- `bytes_as_base64`. -/
def bytesAsBase64 (value : Option Bytes) : Option PyStr := value.map base64

/-- `_key_json`: a key that is not JSON is kept as base64. -/
def keyJson (context : ParserContext) : Option Bytes → Except PyError (Option PyStr)
  | none => .ok none
  | some key =>
    match decodeJson context key with
    | .ok (decoded, _) => .ok (some (Json.dumps decoded))
    | .error problem =>
      if problem.kind = .unicodeDecodeError ∨ problem.kind = .jsonDecodeError then
        .ok (some (Json.dumps (.obj [("base64", .str (base64 key))])))
      else .error problem

/-- `_entity_from_topic`: the last dotted part of the topic. -/
def entityFromTopic (topic : PyStr) : PyStr :=
  let entity := afterLast 46 topic
  if entity = [] then "unknown" else entity

/-- `_event_date`: the date of the first timestamp there is, else of the clock. -/
def eventDate (today : Instant) (timestampsMs : List (Option Int)) : Except PyError PyStr :=
  match timestampsMs.findSome? id with
  | none => .ok today.date.isoformat
  | some selected => (fromTimestamp selected 1000).map fun instant => instant.date.isoformat

/-- When a record that cannot be interpreted failed: its own timestamp, else the epoch. -/
def failureTime : Option Int → Except PyError Instant
  | some timestamp => fromTimestamp timestamp 1000
  | none => .ok Instant.epoch

/-- `_poison`. -/
def poison (context : ParserContext) (message : RawKafkaMessage) (errorCode errorMessage : PyStr) :
    Except PyError ParsedMessage := do
  let failedAt ← failureTime message.timestampMs
  .ok (.poison {
    eventId := deterministicEventId context.sha message.topic message.partition message.offset
    errorCode, errorMessage
    originalTopic := message.topic
    originalPartition := message.partition
    originalOffset := message.offset
    originalKey := bytesAsBase64 message.key
    rawValue := bytesAsBase64 message.value
    failedAt
    retryCount := 0
    encoding := "base64" })

/-- `_optional_int`: `int(value)` of a JSON value that is not a boolean. A string is read as
`int` reads it, a decimal is truncated, and the infinities raise `OverflowError`. -/
def optionalInt : Json → Except PyError (Option Int)
  | .null => .ok none
  | .int value => .ok (some value)
  | .decimal value =>
    let magnitude : Int :=
      if 0 ≤ value.exponent then value.coefficient * 10 ^ value.exponent.toNat
      else (value.coefficient / 10 ^ (-value.exponent).toNat : Nat)
    .ok (some (if value.negative then -magnitude else magnitude))
  | .str text =>
    match parseInt text with
    | some value => .ok (some value)
    | none => .error ⟨.valueError, py "Invalid integer timestamp or source coordinate"⟩
  | .infinity _ => .error ⟨.overflowError, py "cannot convert float infinity to integer"⟩
  | _ => .error ⟨.valueError, py "Invalid integer timestamp or source coordinate"⟩

/-- The tombstone event of a record without value. -/
def tombstoneEvent (context : ParserContext) (observedAt today : Instant)
    (message : RawKafkaMessage) : Except PyError BronzeEvent := do
  let eventKeyJson ← keyJson context message.key
  let date ← eventDate today [message.timestampMs]
  .ok {
    eventId := deterministicEventId context.sha message.topic message.partition message.offset
    entityName := entityFromTopic message.topic
    operation := "t"
    isSnapshot := false
    isDeleted := true
    isTombstone := true
    eventKeyJson
    beforeJson := none
    afterJson := none
    sourceMetadataJson := none
    sourceLsn := none
    sourceTxId := none
    sourceTsMs := none
    connectorTsMs := none
    kafkaTopic := message.topic
    kafkaPartition := message.partition
    kafkaOffset := message.offset
    kafkaMessageTsMs := message.timestampMs
    ingestedAt := observedAt
    eventDate := date
    schemaVersion := context.schemaVersion
    rawEventJson := none }

/-- The four integers of the source block and the connector clock. A `ValueError` becomes
poison at the caller; an `OverflowError` does not. -/
def sourceNumbers (source payload : List (PyStr × Json)) :
    Except PyError (Option Int × Option Int × Option Int × Option Int) := do
  let lsn ← optionalInt (Json.get source "lsn")
  let txId ← optionalInt (Json.get source "txId")
  let tsMs ← optionalInt (Json.get source "ts_ms")
  let connectorTsMs ← optionalInt (Json.get payload "ts_ms")
  .ok (lsn, txId, tsMs, connectorTsMs)

/-- The event of a row change whose envelope has been checked. -/
def rowEvent (context : ParserContext) (observedAt today : Instant) (message : RawKafkaMessage)
    (rawText operation : PyStr) (source : List (PyStr × Json)) (before after : Json)
    (numbers : Option Int × Option Int × Option Int × Option Int) :
    Except PyError BronzeEvent := do
  let (lsn, txId, tsMs, connectorTsMs) := numbers
  let eventKeyJson ← keyJson context message.key
  let date ← eventDate today [tsMs, connectorTsMs, message.timestampMs]
  .ok {
    eventId := deterministicEventId context.sha message.topic message.partition message.offset
    entityName := Json.pyText (Json.get source "table")
    operation
    isSnapshot := operation = py "r"
    isDeleted := operation = py "d"
    isTombstone := false
    eventKeyJson
    beforeJson := if before.isNull then none else some (Json.dumps before)
    afterJson := if after.isNull then none else some (Json.dumps after)
    sourceMetadataJson := some (Json.dumps (.obj source))
    sourceLsn := lsn
    sourceTxId := txId
    sourceTsMs := tsMs
    connectorTsMs
    kafkaTopic := message.topic
    kafkaPartition := message.partition
    kafkaOffset := message.offset
    kafkaMessageTsMs := message.timestampMs
    ingestedAt := observedAt
    eventDate := date
    schemaVersion := context.schemaVersion
    rawEventJson := some rawText }

/-- The part of `parse_debezium_message` after the source block was found. -/
def parseRow (context : ParserContext) (observedAt today : Instant) (message : RawKafkaMessage)
    (rawText operation : PyStr) (payload source : List (PyStr × Json)) :
    Except PyError ParsedMessage :=
  let before := Json.get payload "before"
  let after := Json.get payload "after"
  if (Json.get source "table").isNull ∨ (Json.get source "lsn").isNull then
    poison context message "MISSING_SOURCE_COORDINATES" "Debezium source table or LSN is missing"
  else if operation = py "d" ∧ before.isNull then
    poison context message "INVALID_DELETE" "Delete event must retain before state"
  else if operation ≠ py "d" ∧ after.isNull then
    poison context message "INVALID_AFTER" "Non-delete event must contain after state"
  else match sourceNumbers source payload with
    | .ok numbers =>
      (rowEvent context observedAt today message rawText operation source before after
        numbers).map .event
    | .error problem =>
      if problem.kind = .valueError then
        poison context message "INVALID_SOURCE_METADATA"
          "Debezium source coordinate or timestamp is invalid"
      else .error problem

/-- The part of `parse_debezium_message` after the payload was found. -/
def parsePayload (context : ParserContext) (observedAt today : Instant)
    (message : RawKafkaMessage) (rawText : PyStr) (payload : List (PyStr × Json)) :
    Except PyError ParsedMessage :=
  match Json.get payload "op" with
  | .str operation =>
    if operation ∉ supportedOperations then
      poison context message "UNSUPPORTED_OPERATION" "Debezium operation is absent or unsupported"
    else match Json.get payload "source" with
      | .obj source => parseRow context observedAt today message rawText operation payload source
      | _ => poison context message "MISSING_SOURCE" "Debezium source metadata is missing"
  | .null =>
    if (Json.member? payload "ts_ms").isSome then .ok .heartbeat
    else
      poison context message "UNSUPPORTED_OPERATION" "Debezium operation is absent or unsupported"
  | .arr _ | .obj _ =>
    -- membership in a frozenset hashes the operation, and containers have no hash
    .error ⟨.typeError, py "unhashable type"⟩
  | _ =>
    poison context message "UNSUPPORTED_OPERATION" "Debezium operation is absent or unsupported"

/-- `parse_debezium_message` after the identity of the record was computed. -/
def parseValue (context : ParserContext) (observedAt today : Instant)
    (message : RawKafkaMessage) : Except PyError ParsedMessage :=
  match message.value with
  | none => (tombstoneEvent context observedAt today message).map .event
  | some value =>
    match decodeJson context value with
    | .error problem =>
      if problem.kind = .unicodeDecodeError then
        poison context message "MALFORMED_ENCODING" "Value is not valid UTF-8"
      else if problem.kind = .jsonDecodeError then
        poison context message "MALFORMED_JSON" "Value is not valid JSON"
      else .error problem
    | .ok (.obj document, rawText) =>
      match (Json.member? document "payload").getD (.obj document) with
      | .obj payload => parsePayload context observedAt today message rawText payload
      | _ => poison context message "MISSING_PAYLOAD" "Debezium payload is missing"
    | .ok _ => poison context message "INVALID_ENVELOPE" "CDC value must be a JSON object"

/-- `parse_debezium_message`. `observedAt` is the clock reading of `ingested_at` and `today`
the one `_event_date` falls back to. -/
def parseDebeziumMessage (context : ParserContext) (observedAt today : Instant)
    (message : RawKafkaMessage) : Except PyError ParsedMessage := do
  writeIdentity [message.partition, message.offset] [message.topic]
  parseValue context observedAt today message

/-- What an event keeps of the message and of the settings it was read with. -/
structure ReadFrom (context : ParserContext) (message : RawKafkaMessage) (event : BronzeEvent) :
    Prop where
  /-- The partition. -/
  home : event.topicPartition = message.topicPartition
  /-- The offset. -/
  offset : event.kafkaOffset = message.offset
  /-- The schema version. -/
  version : event.schemaVersion = context.schemaVersion
  /-- It is filed under the date of an instant. -/
  dated : ∃ instant : Instant, event.eventDate = instant.date.isoformat

/-- An event is filed under the date of an instant. -/
theorem eventDate_isoformat {today : Instant} {stamps : List (Option Int)} {date : PyStr}
    (dated : eventDate today stamps = .ok date) :
    ∃ instant : Instant, date = instant.date.isoformat := by
  unfold eventDate at dated
  split at dated
  · exact ⟨today, (Except.ok.inj dated).symm⟩
  · rename_i selected _
    cases shown : fromTimestamp selected 1000 with
    | error problem => rw [shown] at dated; cases dated
    | ok instant =>
      rw [shown] at dated
      exact ⟨instant, (Except.ok.inj dated).symm⟩

/-- A tombstone keeps the coordinates of its message. -/
theorem tombstoneEvent_coordinates {context : ParserContext} {observedAt today : Instant}
    {message : RawKafkaMessage} {event : BronzeEvent}
    (parsed : tombstoneEvent context observedAt today message = .ok event) :
    ReadFrom context message event := by
  unfold tombstoneEvent at parsed
  cases keyed : keyJson context message.key with
  | error problem => simp [keyed, bind, Except.bind] at parsed
  | ok eventKeyJson =>
    cases dated : eventDate today [message.timestampMs] with
    | error problem => simp [keyed, dated, bind, Except.bind] at parsed
    | ok date =>
      simp only [keyed, dated, bind, Except.bind, Except.ok.injEq] at parsed
      subst parsed
      exact ⟨rfl, rfl, rfl, eventDate_isoformat dated⟩

/-- The same for a row change. -/
theorem rowEvent_coordinates {context : ParserContext} {observedAt today : Instant}
    {message : RawKafkaMessage} {rawText operation : PyStr} {source : List (PyStr × Json)}
    {before after : Json} {numbers : Option Int × Option Int × Option Int × Option Int}
    {event : BronzeEvent}
    (parsed : rowEvent context observedAt today message rawText operation source before after
      numbers = .ok event) :
    ReadFrom context message event := by
  unfold rowEvent at parsed
  cases keyed : keyJson context message.key with
  | error problem => simp [keyed, bind, Except.bind] at parsed
  | ok eventKeyJson =>
    cases dated : eventDate today [numbers.2.2.1, numbers.2.2.2, message.timestampMs] with
    | error problem => simp [keyed, dated, bind, Except.bind] at parsed
    | ok date =>
      simp only [keyed, dated, bind, Except.bind, Except.ok.injEq] at parsed
      subst parsed
      exact ⟨rfl, rfl, rfl, eventDate_isoformat dated⟩

/-- `_poison` never returns an event. -/
theorem poison_not_event {context : ParserContext} {message : RawKafkaMessage}
    {code text : PyStr} {event : BronzeEvent} :
    poison context message code text ≠ .ok (.event event) := by
  intro returned
  unfold poison at returned
  cases stamped : failureTime message.timestampMs with
  | error problem => simp only [stamped, bind, Except.bind, reduceCtorEq] at returned
  | ok failedAt =>
    simp only [stamped, bind, Except.bind, Except.ok.injEq, reduceCtorEq] at returned

/-- An event parsed from a row change keeps the coordinates of its message. -/
theorem parseRow_coordinates {context : ParserContext} {observedAt today : Instant}
    {message : RawKafkaMessage} {rawText operation : PyStr}
    {payload source : List (PyStr × Json)} {event : BronzeEvent}
    (parsed : parseRow context observedAt today message rawText operation payload source =
      .ok (.event event)) :
    ReadFrom context message event := by
  simp only [parseRow] at parsed
  split at parsed
  · exact absurd parsed poison_not_event
  split at parsed
  · exact absurd parsed poison_not_event
  split at parsed
  · exact absurd parsed poison_not_event
  split at parsed
  · rename_i numbers _
    cases built : rowEvent context observedAt today message rawText operation source
        (Json.get payload "before") (Json.get payload "after") numbers with
    | error problem => simp [built, Except.map] at parsed
    | ok row =>
      simp only [built, Except.map, Except.ok.injEq, ParsedMessage.event.injEq] at parsed
      subst parsed
      exact rowEvent_coordinates built
  · split at parsed
    · exact absurd parsed poison_not_event
    · simp at parsed

/-- An event parsed from a payload keeps the coordinates of its message. -/
theorem parsePayload_coordinates {context : ParserContext} {observedAt today : Instant}
    {message : RawKafkaMessage} {rawText : PyStr} {payload : List (PyStr × Json)}
    {event : BronzeEvent}
    (parsed : parsePayload context observedAt today message rawText payload = .ok (.event event)) :
    ReadFrom context message event := by
  unfold parsePayload at parsed
  split at parsed
  · split at parsed
    · exact absurd parsed poison_not_event
    · split at parsed
      · exact parseRow_coordinates parsed
      · exact absurd parsed poison_not_event
  · split at parsed
    · simp at parsed
    · exact absurd parsed poison_not_event
  · simp at parsed
  · simp at parsed
  · exact absurd parsed poison_not_event

/-- An event parsed from a value keeps the coordinates of its message. -/
theorem parseValue_coordinates {context : ParserContext} {observedAt today : Instant}
    {message : RawKafkaMessage} {event : BronzeEvent}
    (parsed : parseValue context observedAt today message = .ok (.event event)) :
    ReadFrom context message event := by
  unfold parseValue at parsed
  split at parsed
  · cases built : tombstoneEvent context observedAt today message with
    | error problem => simp [built, Except.map] at parsed
    | ok row =>
      simp only [built, Except.map, Except.ok.injEq, ParsedMessage.event.injEq] at parsed
      subst parsed
      exact tombstoneEvent_coordinates built
  · split at parsed
    · split at parsed
      · exact absurd parsed poison_not_event
      · split at parsed
        · exact absurd parsed poison_not_event
        · simp at parsed
    · split at parsed
      · exact parsePayload_coordinates parsed
      · exact absurd parsed poison_not_event
    · exact absurd parsed poison_not_event

/-- The parser returns what it makes of the value, once the identity was written out. -/
theorem parse_ok_iff {context : ParserContext} {observedAt today : Instant}
    {message : RawKafkaMessage} {meaning : ParsedMessage} :
    parseDebeziumMessage context observedAt today message = .ok meaning ↔
      writeIdentity [message.partition, message.offset] [message.topic] = .ok () ∧
        parseValue context observedAt today message = .ok meaning := by
  unfold parseDebeziumMessage
  cases writeIdentity [message.partition, message.offset] [message.topic] with
  | error problem => simp [bind, Except.bind]
  | ok _ => simp [bind, Except.bind]

/-- Every event of the parser keeps the coordinates of its message. -/
theorem parse_coordinates {context : ParserContext} {observedAt today : Instant}
    {message : RawKafkaMessage} {event : BronzeEvent}
    (parsed : parseDebeziumMessage context observedAt today message = .ok (.event event)) :
    event.topicPartition = message.topicPartition ∧ event.kafkaOffset = message.offset :=
  have read := parseValue_coordinates (parse_ok_iff.mp parsed).2
  ⟨read.home, read.offset⟩

/-- Every event of the parser can be identified. -/
theorem parse_identified {context : ParserContext} {observedAt today : Instant}
    {message : RawKafkaMessage} {event : BronzeEvent}
    (parsed : parseDebeziumMessage context observedAt today message = .ok (.event event)) :
    event.Identified := by
  obtain ⟨written, value⟩ := parse_ok_iff.mp parsed
  obtain ⟨home, offset, version⟩ := parseValue_coordinates value
  obtain ⟨topic, partition⟩ := TopicPartitionKey.mk.inj home
  have readable := writeIdentity_ok.mp written
  simp only [List.all_cons, List.all_nil, Bool.and_true, Bool.and_eq_true] at readable
  exact {
    topic := by rw [topic]; exact readable.2
    version := by rw [version]; exact isName_encodable context.schemaVersion_safe
    partition := by rw [partition]; exact readable.1.1
    offset := by rw [offset]; exact readable.1.2 }

end Cdc

import PaymentsPlatform.Cdc.Classification
import PaymentsPlatform.Cdc.Storage
import PaymentsPlatform.Python.Encoding

/-!
# Which events can be stored

An event that was accepted is written to Parquet with the other events of its batch, under a key
that names its entity. The Arrow schema takes integers of 64 bits (the partition: 32) and texts
that can be encoded, and the key takes names. The parser checks neither, so an accepted event can
be one that no later stage can represent.
-/

namespace Cdc

open Python

/-- An integer of an `int64` column. -/
def FitsInt64 (number : Int) : Prop := -2 ^ 63 ≤ number ∧ number < 2 ^ 63

/-- An integer of an `int32` column. -/
def FitsInt32 (number : Int) : Prop := -2 ^ 31 ≤ number ∧ number < 2 ^ 31

/-- The event can be stored: `from_pylist` takes every column of `CDC_ARROW_SCHEMA`, and a batch
with the event has an object key. -/
structure Storable (event : BronzeEvent) : Prop where
  /-- The integers of nullable columns. -/
  integers : ∀ number, some number ∈ [event.sourceLsn, event.sourceTxId, event.sourceTsMs,
    event.connectorTsMs, event.kafkaMessageTsMs] → FitsInt64 number
  /-- The offset. -/
  offset : FitsInt64 event.kafkaOffset
  /-- The partition. -/
  partition : FitsInt32 event.kafkaPartition
  /-- The texts. -/
  texts : ∀ text ∈ [event.eventId, event.entityName, event.operation, event.kafkaTopic,
    event.schemaVersion], encodable text = true
  /-- The texts of nullable columns. -/
  documents : ∀ text, some text ∈ [event.eventKeyJson, event.beforeJson, event.afterJson,
    event.sourceMetadataJson, event.rawEventJson] → encodable text = true
  /-- A batch with the event has a key. -/
  addressed : ∀ sha events batch, buildBatch sha events = .ok batch → event ∈ batch.events →
    ∃ key, buildCdcObjectKey batch = .ok key

/-- The key of a record has no surrogate, if it is JSON at all. -/
def CleanKey (context : ParserContext) (message : RawKafkaMessage) : Prop :=
  ∀ bytes document text, message.key = some bytes →
    decodeJson context bytes = .ok (document, text) → document.encodable = true

/-- What the parser would have to check of a form before it accepts it. -/
def Form.Clean (message : RawKafkaMessage) : Form → Prop
  | .tombstone => isPartitionValue (entityFromTopic message.topic) = true
  | .row _ _ payload source (lsn, txId, tsMs, connectorTsMs) =>
    isPartitionValue (Json.pyText (Json.get source "table")) = true ∧
      (∀ number, some number ∈ [lsn, txId, tsMs, connectorTsMs] → FitsInt64 number) ∧
      (Json.get payload "before").encodable = true ∧ (Json.get payload "after").encodable = true ∧
      Json.encodableMembers source = true
  | _ => True

/-- What the parser would have to check of a record before it accepts it: table name and source
numbers fit, no string of the row, the source block or the key has a lone surrogate, and the
record timestamp fits. -/
def Clean (context : ParserContext) (message : RawKafkaMessage) : Prop :=
  CleanKey context message ∧
    (∀ timestamp, message.timestampMs = some timestamp → FitsInt64 timestamp) ∧
    ∀ shape, form context message = .ok shape → shape.Clean message

/-- The key as canonical JSON can be encoded exactly when the key has no surrogate. -/
theorem keyJson_encodable {context : ParserContext} {message : RawKafkaMessage}
    {text : Option PyStr} (read : keyJson context message.key = .ok text) :
    (∀ written, text = some written → encodable written = true) ↔ CleanKey context message := by
  unfold CleanKey
  cases there : message.key with
  | none =>
    rw [there] at read
    obtain rfl := Except.ok.inj read
    simp
  | some bytes =>
    rw [there] at read
    simp only [keyJson] at read
    cases decoded : decodeJson context bytes with
    | ok document =>
      obtain ⟨document, source⟩ := document
      rw [decoded] at read
      obtain rfl := Except.ok.inj read
      constructor
      · intro whole other document' text' same again
        obtain rfl := Option.some.inj same
        rw [decoded] at again
        obtain ⟨rfl, rfl⟩ := Prod.mk.inj (Except.ok.inj again)
        rw [← Json.encodable_dumps]
        exact whole _ rfl
      · intro clean written same
        obtain rfl := Option.some.inj same
        rw [Json.encodable_dumps]
        exact clean bytes document source rfl decoded
    | error problem =>
      simp only [decoded] at read
      split at read
      · obtain rfl := Except.ok.inj read
        constructor
        · intro _ other document' text' same again
          obtain rfl := Option.some.inj same
          rw [decoded] at again
          cases again
        · intro _ written same
          obtain rfl := Option.some.inj same
          rw [Json.encodable_dumps]
          simp [Json.encodable, Json.encodableMembers, base64_encodable]
          decide
      · cases read

/-- A longer limit admits every name of a shorter one. -/
theorem isName_mono {short long : Nat} (le : short ≤ long) {value : PyStr}
    (valid : isName short value = true) : isName long value = true := by
  cases value with
  | nil => cases valid
  | cons first rest =>
    simp only [isName, Bool.and_eq_true, decide_eq_true_eq] at valid ⊢
    exact ⟨⟨valid.1.1, valid.1.2.trans le⟩, valid.2⟩

/-- When a batch has an object key. -/
theorem buildCdcObjectKey_ok_iff {batch : CdcBatch} :
    (∃ key, buildCdcObjectKey batch = .ok key) ↔
      isPartitionValue batch.entityName = true ∧ isPartitionValue batch.topic = true := by
  unfold buildCdcObjectKey safe
  by_cases entity : isPartitionValue batch.entityName = true
  · by_cases topic : isPartitionValue batch.topic = true
    · simp [entity, topic, bind, Except.bind]
    · simp [entity, topic, bind, Except.bind]
  · simp [entity, bind, Except.bind]

/-- A batch has the entity and the topic of each of its events. -/
theorem buildBatch_labels {sha : Sha256} {events : List BronzeEvent} {batch : CdcBatch}
    (built : buildBatch sha events = .ok batch) {event : BronzeEvent}
    (member : event ∈ batch.events) :
    batch.entityName = event.entityName ∧ batch.topic = event.kafkaTopic := by
  simp only [buildBatch] at built
  split at built
  · rename_i first rest last ordered final
    split at built
    · cases built
    split at built
    · cases built
    split at built
    · cases built
    split at built
    · cases built
    split at built
    · cases built
    rename_i placed named dated versioned
    cases written : writeIdentity [first.kafkaPartition, first.kafkaOffset, last.kafkaOffset]
        [first.kafkaTopic, first.schemaVersion] with
    | error problem => simp [written, Except.map] at built
    | ok _ =>
      rw [written] at built
      obtain rfl := Except.ok.inj built
      simp only [List.any_eq_true, decide_eq_true_eq, not_exists, not_and, not_not] at placed named
      have home := placed event member
      exact ⟨(named event member).symm, (TopicPartitionKey.mk.inj home).1.symm⟩
  · cases built

/-- What is left to check of an event whose coordinates fit. -/
theorem storable_iff {event : BronzeEvent} (identified : event.Identified)
    (topic : isName 248 event.kafkaTopic = true) (offset : FitsInt64 event.kafkaOffset)
    (partition : FitsInt32 event.kafkaPartition)
    (named : encodable event.eventId = true ∧ encodable event.operation = true) :
    Storable event ↔ isPartitionValue event.entityName = true ∧
      (∀ number, some number ∈ [event.sourceLsn, event.sourceTxId, event.sourceTsMs,
        event.connectorTsMs, event.kafkaMessageTsMs] → FitsInt64 number) ∧
      ∀ text, some text ∈ [event.eventKeyJson, event.beforeJson, event.afterJson,
        event.sourceMetadataJson, event.rawEventJson] → encodable text = true := by
  constructor
  · intro storable
    refine ⟨?_, storable.integers, storable.documents⟩
    -- The batch of the event alone has to have a key.
    have home : ∀ other ∈ [event], other.topicPartition = event.topicPartition :=
      fun other member => by rw [List.mem_singleton.mp member]
    obtain ⟨batch, built, events, -, -, -⟩ := buildBatch_of_chain sha256
      (List.cons_ne_nil event []) (List.isChain_singleton event) home
      (fun other member => by rw [List.mem_singleton.mp member]; exact identified)
    have inside : event ∈ batch.events := by rw [events]; exact List.mem_singleton_self event
    have key := storable.addressed sha256 [event] batch built inside
    rw [← (buildBatch_labels built inside).1]
    exact (buildCdcObjectKey_ok_iff.mp key).1
  · rintro ⟨entity, integers, documents⟩
    refine ⟨integers, offset, partition, ?_, documents, ?_⟩
    · intro text member
      simp only [List.mem_cons, List.not_mem_nil, or_false] at member
      rcases member with rfl | rfl | rfl | rfl | rfl
      · exact named.1
      · exact isName_encodable entity
      · exact named.2
      · exact identified.topic
      · exact identified.version
    · intro sha events batch built member
      obtain ⟨sameEntity, sameTopic⟩ := buildBatch_labels built member
      rw [buildCdcObjectKey_ok_iff, sameEntity, sameTopic]
      exact ⟨entity, isName_mono (by decide) topic⟩

/-- The operations are ASCII. -/
theorem supportedOperations_encodable {operation : PyStr}
    (supported : operation ∈ supportedOperations) : encodable operation = true := by
  have all : ∀ other ∈ supportedOperations, encodable other = true := by decide
  exact all operation supported

/-- The text of a decoded document can be encoded. -/
theorem decodeJson_encodable {context : ParserContext} {bytes : Bytes} {document : Json}
    {text : PyStr} (decoded : decodeJson context bytes = .ok (document, text)) :
    encodable text = true := by
  unfold decodeJson at decoded
  cases read : decodeUtf8 bytes with
  | none => simp [read] at decoded
  | some whole =>
    simp only [read] at decoded
    cases parsed : Json.loads context.recursionLimit whole with
    | error problem => simp [parsed, Except.map] at decoded
    | ok value =>
      rw [parsed] at decoded
      obtain ⟨-, rfl⟩ := Prod.mk.inj (Except.ok.inj decoded)
      exact decodeUtf8_encodable read

/-- A payload is a row change with its own text and a supported operation. -/
theorem payloadForm_eq_row {text rawText operation : PyStr}
    {payload other source : List (PyStr × Json)}
    {numbers : Option Int × Option Int × Option Int × Option Int}
    (formed : payloadForm text payload = .ok (.row rawText operation other source numbers)) :
    rawText = text ∧ operation ∈ supportedOperations := by
  unfold payloadForm at formed
  split at formed
  · split at formed
    · cases formed
    · rename_i supported
      split at formed
      · simp only [rowForm] at formed
        split at formed
        · cases formed
        split at formed
        · cases formed
        split at formed
        · cases formed
        split at formed
        · obtain ⟨rfl, rfl, -⟩ := Form.row.inj (Except.ok.inj formed)
          exact ⟨rfl, not_not.mp supported⟩
        · split at formed
          · cases formed
          · cases formed
      · cases formed
  · split at formed
    · cases formed
    · cases formed
  · cases formed
  · cases formed
  · cases formed

/-- The text of a row change can be encoded, and its operation is supported. -/
theorem form_row {context : ParserContext} {message : RawKafkaMessage}
    {rawText operation : PyStr} {payload source : List (PyStr × Json)}
    {numbers : Option Int × Option Int × Option Int × Option Int}
    (formed : form context message = .ok (.row rawText operation payload source numbers)) :
    encodable rawText = true ∧ operation ∈ supportedOperations := by
  unfold form at formed
  split at formed
  · cases formed
  · split at formed
    · split at formed
      · cases formed
      · split at formed
        · cases formed
        · cases formed
    · rename_i document text decoded
      split at formed
      · obtain ⟨rfl, supported⟩ := payloadForm_eq_row formed
        exact ⟨decodeJson_encodable decoded, supported⟩
      · cases formed
    · cases formed

/-- A nullable document column. -/
theorem dumped_encodable {document : Json} :
    (∀ text, some text = (if document.isNull then none else some (Json.dumps document)) →
      encodable text = true) ↔ document.encodable = true := by
  cases document with
  | null => simp [Json.isNull, Json.encodable]
  | _ => simp [Json.isNull, Json.encodable_dumps]

/-- An accepted tombstone can be stored exactly when its form is clean. -/
theorem tombstone_storable_iff {context : ParserContext} {observedAt today : Instant}
    {message : RawKafkaMessage} {event : BronzeEvent}
    (identified : event.Identified) (topic : isName 248 message.topic = true)
    (offset : FitsInt64 message.offset) (partition : FitsInt32 message.partition)
    (built : tombstoneEvent context observedAt today message = .ok event) :
    Storable event ↔ CleanKey context message ∧
      (∀ timestamp, message.timestampMs = some timestamp → FitsInt64 timestamp) ∧
      Form.tombstone.Clean message := by
  unfold tombstoneEvent at built
  cases read : keyJson context message.key with
  | error problem => simp [read, bind, Except.bind] at built
  | ok text =>
    cases dated : eventDate today [message.timestampMs] with
    | error problem => simp [read, dated, bind, Except.bind] at built
    | ok date =>
      rw [read, dated] at built
      obtain rfl := Except.ok.inj built
      rw [storable_iff identified topic offset partition
        ⟨hexdigest_encodable _ _, (by decide : encodable (py "t") = true)⟩,
        ← keyJson_encodable read]
      simp only [List.mem_cons, List.not_mem_nil, or_false, reduceCtorEq, false_or, Form.Clean]
      constructor
      · rintro ⟨entity, integers, documents⟩
        exact ⟨fun written same => documents written same.symm,
          fun timestamp same => integers timestamp same.symm, entity⟩
      · rintro ⟨documents, integers, entity⟩
        exact ⟨entity, fun number same => integers number same.symm,
          fun written same => documents written same.symm⟩

/-- An accepted row change can be stored exactly when its form is clean. -/
theorem row_storable_iff {context : ParserContext} {observedAt today : Instant}
    {message : RawKafkaMessage} {event : BronzeEvent} {rawText operation : PyStr}
    {payload source : List (PyStr × Json)}
    {numbers : Option Int × Option Int × Option Int × Option Int}
    (identified : event.Identified) (topic : isName 248 message.topic = true)
    (offset : FitsInt64 message.offset) (partition : FitsInt32 message.partition)
    (formed : form context message = .ok (.row rawText operation payload source numbers))
    (built : rowEvent context observedAt today message rawText operation source
      (Json.get payload "before") (Json.get payload "after") numbers = .ok event) :
    Storable event ↔ CleanKey context message ∧
      (∀ timestamp, message.timestampMs = some timestamp → FitsInt64 timestamp) ∧
      (Form.row rawText operation payload source numbers).Clean message := by
  obtain ⟨raw, supported⟩ := form_row formed
  obtain ⟨lsn, txId, tsMs, connectorTsMs⟩ := numbers
  unfold rowEvent at built
  cases read : keyJson context message.key with
  | error problem => simp [read, bind, Except.bind] at built
  | ok text =>
    cases dated : eventDate today [tsMs, connectorTsMs, message.timestampMs] with
    | error problem => simp [read, dated, bind, Except.bind] at built
    | ok date =>
      simp only [read, dated, bind, Except.bind] at built
      obtain rfl := Except.ok.inj built
      rw [storable_iff identified topic offset partition
        ⟨hexdigest_encodable _ _, supportedOperations_encodable supported⟩,
        ← keyJson_encodable read]
      have blocks : encodable (Json.dumps (.obj source)) = Json.encodableMembers source :=
        Json.encodable_dumps _
      simp only [List.mem_cons, List.not_mem_nil, or_false, Form.Clean, or_imp, forall_and,
        dumped_encodable, Option.some.injEq, forall_eq, blocks, raw, and_true]
      constructor
      · rintro ⟨entity, ⟨one, two, three, four, stamp⟩, key, before, after, block⟩
        exact ⟨fun written same => key written same.symm,
          fun timestamp same => stamp timestamp same.symm, entity, ⟨one, two, three, four⟩, before,
          after, block⟩
      · rintro ⟨key, stamp, entity, ⟨one, two, three, four⟩, before, after, block⟩
        exact ⟨entity, ⟨one, two, three, four, fun number same => stamp number same.symm⟩,
          fun written same => key written same.symm, before, after, block⟩

/-- An accepted record of a configured topic can be stored exactly when it is clean. -/
theorem accepted_storable_iff (context : ParserContext) (observedAt today : Instant)
    (message : RawKafkaMessage) (event : BronzeEvent) (topic : isName 248 message.topic = true)
    (partition : FitsInt32 message.partition) (offset : FitsInt64 message.offset)
    (parsed : parseDebeziumMessage context observedAt today message = .ok (.event event)) :
    Storable event ↔ Clean context message := by
  have identified := parse_identified parsed
  obtain ⟨-, shape, formed, finished⟩ := parse_form.mp parsed
  have only : Clean context message ↔ CleanKey context message ∧
      (∀ timestamp, message.timestampMs = some timestamp → FitsInt64 timestamp) ∧
      shape.Clean message := by
    simp only [Clean, formed, Except.ok.injEq, forall_eq']
  rw [only]
  cases shape with
  | heartbeat => cases finishForm_kind finished
  | malformed code text => cases finishForm_kind finished
  | tombstone =>
    simp only [finishForm] at finished
    cases built : tombstoneEvent context observedAt today message with
    | error problem => simp [built, Except.map] at finished
    | ok other =>
      rw [built] at finished
      obtain rfl := ParsedMessage.event.inj (Except.ok.inj finished)
      exact tombstone_storable_iff identified topic offset partition built
  | row rawText operation payload source numbers =>
    simp only [finishForm] at finished
    cases built : rowEvent context observedAt today message rawText operation source
        (Json.get payload "before") (Json.get payload "after") numbers with
    | error problem => simp [built, Except.map] at finished
    | ok other =>
      rw [built] at finished
      obtain rfl := ParsedMessage.event.inj (Except.ok.inj finished)
      exact row_storable_iff identified topic offset partition formed built

instance (number : Int) : Decidable (FitsInt64 number) := inferInstanceAs (Decidable (_ ∧ _))

/-- The demands on a form are about finitely many values. -/
instance (message : RawKafkaMessage) (shape : Form) : Decidable (shape.Clean message) :=
  match shape with
  | .tombstone => inferInstanceAs (Decidable (_ = true))
  | .row _ _ payload source (lsn, txId, tsMs, connectorTsMs) =>
    decidable_of_iff (isPartitionValue (Json.pyText (Json.get source "table")) = true ∧
      (∀ entry ∈ [lsn, txId, tsMs, connectorTsMs], ∀ number ∈ entry, FitsInt64 number) ∧
      (Json.get payload "before").encodable = true ∧ (Json.get payload "after").encodable = true ∧
      Json.encodableMembers source = true)
      (and_congr_right fun _ => and_congr_left fun _ =>
        ⟨fun each number member => each _ member number rfl,
          fun each _ member number there => each number (there ▸ member)⟩)
  | .heartbeat => .isTrue trivial
  | .malformed _ _ => .isTrue trivial

/-- The insert of a customer with its key, its log position, its transaction and its clocks. -/
def customerInsert : RawKafkaMessage :=
  { customerRecord (py ("\x7b\"op\":\"c\",\"ts_ms\":1700000000123,\"before\":null," ++
      "\"after\":\x7b\"customer_id\":\"a\",\"full_name\":\"Nguyễn An\"\x7d," ++
      "\"source\":\x7b\"table\":\"customers\",\"lsn\":24023128,\"txId\":571," ++
      "\"ts_ms\":1700000000000\x7d\x7d")) with
    key := some (utf8 (py "\x7b\"customer_id\":\"a\"\x7d")) }

/-- What an event carries of a log position, a transaction, clocks and texts. -/
def carried : ParsedMessage → Option (List (Option Int) × List Bool)
  | .event event => some ([event.sourceLsn, event.sourceTxId, event.sourceTsMs,
      event.connectorTsMs, event.kafkaMessageTsMs],
      [event.eventKeyJson, event.beforeJson, event.afterJson,
        event.sourceMetadataJson, event.rawEventJson].map Option.isSome)
  | _ => none

/-- The insert of a customer has all of them and can be stored. -/
theorem customer_insert_storable : ∃ event,
    parseDebeziumMessage defaultParser Instant.epoch Instant.epoch customerInsert =
      .ok (.event event) ∧
    carried (.event event) = some ([some 24023128, some 571, some 1700000000000,
      some 1700000000123, some 1700000000000], [true, false, true, true, true]) ∧
    Storable event := by
  have carries : (parseDebeziumMessage defaultParser Instant.epoch Instant.epoch
      customerInsert).map carried = .ok (some ([some 24023128, some 571, some 1700000000000,
        some 1700000000123, some 1700000000000], [true, false, true, true, true])) := by
    decide +kernel
  obtain ⟨event, parsed⟩ : ∃ event, parseDebeziumMessage defaultParser Instant.epoch
      Instant.epoch customerInsert = .ok (.event event) := by
    cases returned : parseDebeziumMessage defaultParser Instant.epoch Instant.epoch
        customerInsert with
    | error problem => simp [returned, Except.map] at carries
    | ok meaning =>
      cases meaning with
      | event event => exact ⟨event, rfl⟩
      | heartbeat => simp [returned, Except.map, carried] at carries
      | poison evidence => simp [returned, Except.map, carried] at carries
  rw [parsed] at carries
  refine ⟨event, parsed, Except.ok.inj carries, (accepted_storable_iff defaultParser Instant.epoch
    Instant.epoch customerInsert event (by decide +kernel) ⟨by decide, by decide⟩
    ⟨by decide, by decide⟩ parsed).mpr ⟨?_, ?_, ?_⟩⟩
  · rintro bytes document text ⟨rfl⟩ decoded
    have whole : (decodeJson defaultParser (utf8 (py "\x7b\"customer_id\":\"a\"\x7d"))).map
        (fun read => read.1.encodable) = .ok true := by decide +kernel
    rw [decoded] at whole
    exact Except.ok.inj whole
  · rintro timestamp ⟨rfl⟩
    exact ⟨by decide, by decide⟩
  · intro shape formed
    have clean : (form defaultParser customerInsert).map
        (fun shape => decide (shape.Clean customerInsert)) = .ok true := by decide +kernel
    rw [formed] at clean
    exact of_decide_eq_true (Except.ok.inj clean)

/-- An insert whose log position is beyond 64 bits. -/
def distantInsert : RawKafkaMessage :=
  customerRecord (py ("\x7b\"op\":\"c\",\"ts_ms\":1,\"after\":\x7b\x7d,\"source\":" ++
    "\x7b\"table\":\"customers\",\"lsn\":9223372036854775808\x7d\x7d"))

/-- The log sequence number of a message that is an event. -/
def lsnOf : ParsedMessage → Option Int
  | .event event => event.sourceLsn
  | _ => none

/-- The parser accepts an insert whose log position no `int64` column takes. -/
theorem distant_insert_not_storable :
    ¬ ∀ event, parseDebeziumMessage defaultParser Instant.epoch Instant.epoch distantInsert =
      .ok (.event event) → Storable event := by
  intro storable
  have lsn : (parseDebeziumMessage defaultParser Instant.epoch Instant.epoch distantInsert).map
      lsnOf = .ok (some (2 ^ 63)) := by
    decide +kernel
  cases parsed : parseDebeziumMessage defaultParser Instant.epoch Instant.epoch distantInsert with
  | error problem => simp [parsed, Except.map] at lsn
  | ok meaning =>
    rw [parsed] at lsn
    cases meaning with
    | heartbeat => cases lsn
    | poison evidence => cases lsn
    | event event =>
      have known : event.sourceLsn = some (2 ^ 63) := Except.ok.inj lsn
      have fits := (storable event parsed).integers (2 ^ 63) (by simp [known])
      exact absurd fits.2 (by decide)

end Cdc

import PaymentsPlatform.Silver.Normalizer

/-!
# What becomes of a Bronze row

`normalize_cdc_table` row by row: a row becomes an event or a rejection, or it raises an exception
that the loop does not catch and ends the run. An event carries the identity of its coordinate.
-/

namespace Silver

open Python

/-- The event of a row. -/
def rowEvent (context : RunContext) (row : BronzeRow) : Option NormalizedCdcEvent :=
  match normalizeRow context row with
  | .ok event => some event
  | .error _ => none

/-- The rejection of a row. -/
def rowRejected (context : RunContext) (row : BronzeRow) : Option QualityRejection :=
  match normalizeRow context row with
  | .ok _ => none
  | .error (.quality code message, key) => some (rejectRow context row key code message)
  | .error (.raised error, key) =>
    some (rejectRow context row key .invalidBronzeSchema error.message)

/-- The exception of a row that the loop does not catch. -/
def rowRaises (context : RunContext) (row : BronzeRow) : Option PyError :=
  match normalizeRow context row with
  | .error (.raised error, _) => if error.kind.isBadValue then none else some error
  | _ => none

/-- The first row that raises ends the loop; otherwise every row is an event or a rejection. -/
theorem normalizeCdcTable_eq (context : RunContext) (rows : List BronzeRow) :
    normalizeCdcTable context rows =
      match rows.findSome? (rowRaises context) with
      | some error => .error error
      | none => .ok (rows.filterMap (rowEvent context), rows.filterMap (rowRejected context)) := by
  induction rows with
  | nil => rfl
  | cons row rows ih =>
    rw [normalizeCdcTable, ih, List.findSome?_cons]
    cases outcome : normalizeRow context row with
    | ok event =>
      have raises : rowRaises context row = none := by rw [rowRaises, outcome]
      have read : rowEvent context row = some event := by rw [rowEvent, outcome]
      have kept : rowRejected context row = none := by rw [rowRejected, outcome]
      rw [raises, List.filterMap_cons_some read, List.filterMap_cons_none kept]
      cases rows.findSome? (rowRaises context) <;> rfl
    | error problem =>
      have read : rowEvent context row = none := by rw [rowEvent, outcome]
      obtain ⟨problem, key⟩ := problem
      cases problem with
      | quality code message =>
        have raises : rowRaises context row = none := by rw [rowRaises, outcome]
        have kept : rowRejected context row = some (rejectRow context row key code message) := by
          rw [rowRejected, outcome]
        rw [raises, List.filterMap_cons_none read, List.filterMap_cons_some kept]
        cases rows.findSome? (rowRaises context) <;> rfl
      | raised error =>
        have kept : rowRejected context row =
            some (rejectRow context row key .invalidBronzeSchema error.message) := by
          rw [rowRejected, outcome]
        by_cases caught : error.kind.isBadValue = true
        · have raises : rowRaises context row = none := by
            rw [rowRaises, outcome]
            exact if_pos caught
          rw [raises, List.filterMap_cons_none read, List.filterMap_cons_some kept]
          dsimp only
          rw [if_pos caught]
          cases rows.findSome? (rowRaises context) <;> rfl
        · have raises : rowRaises context row = some error := by
            rw [rowRaises, outcome]
            exact if_neg caught
          rw [raises]
          exact if_neg caught

/-- The table is normalized when no row raises, to the events and the rejections of its rows. -/
theorem normalizeCdcTable_ok_iff {context : RunContext} {rows : List BronzeRow}
    {events : List NormalizedCdcEvent} {rejections : List QualityRejection} :
    normalizeCdcTable context rows = .ok (events, rejections) ↔
      (∀ row ∈ rows, rowRaises context row = none) ∧ events = rows.filterMap (rowEvent context) ∧
        rejections = rows.filterMap (rowRejected context) := by
  rw [normalizeCdcTable_eq]
  cases raised : rows.findSome? (rowRaises context) with
  | some error =>
    constructor
    · intro no
      cases no
    · rintro ⟨none_raises, -⟩
      rw [List.findSome?_eq_none_iff.mpr none_raises] at raised
      cases raised
  | none =>
    rw [List.findSome?_eq_none_iff] at raised
    constructor
    · intro returned
      obtain ⟨rfl, rfl⟩ := Prod.mk.inj (Except.ok.inj returned)
      exact ⟨raised, rfl, rfl⟩
    · rintro ⟨-, rfl, rfl⟩
      rfl

/-- A row that is read as an event is not rejected, and the other way round. -/
theorem rowEvent_isSome_iff (context : RunContext) (row : BronzeRow) :
    (rowEvent context row).isSome ↔ rowRejected context row = none := by
  unfold rowEvent rowRejected
  cases normalizeRow context row with
  | ok event => simp
  | error problem =>
    obtain ⟨problem, key⟩ := problem
    cases problem <;> simp

/-- Every row is an event or a rejection. -/
theorem rows_length (context : RunContext) (rows : List BronzeRow) :
    (rows.filterMap (rowEvent context)).length + (rows.filterMap (rowRejected context)).length =
      rows.length := by
  induction rows with
  | nil => rfl
  | cons row rows ih =>
    have either := rowEvent_isSome_iff context row
    cases event : rowEvent context row with
    | some found =>
      rw [event, Option.isSome_some, eq_self, true_iff] at either
      rw [List.filterMap_cons_some event, List.filterMap_cons_none either, List.length_cons,
        List.length_cons]
      omega
    | none =>
      have refused : rowRejected context row ≠ none := by
        intro kept
        rw [event] at either
        cases either.mpr kept
      obtain ⟨rejected, found⟩ := Option.ne_none_iff_exists'.mp refused
      rw [List.filterMap_cons_none event, List.filterMap_cons_some found, List.length_cons,
        List.length_cons]
      omega

/-- What is identified before the clocks are read. -/
theorem identify_ok {context : RunContext} {row : BronzeRow} {identity : EventIdentity}
    (identified : identify context row = .ok identity) :
    row.kafkaTopic.getD "None" = identity.topic ∧ row.kafkaPartition = some identity.partition ∧
      row.kafkaOffset = some identity.offset ∧
      row.eventId.getD [] = Cdc.deterministicEventId context.sha identity.topic identity.partition
        identity.offset := by
  unfold identify at identified
  dsimp only at identified
  split at identified
  · cases identified
  split at identified
  · cases identified
  obtain ⟨partition, isPartition, identified⟩ := bind_eq_ok.mp identified
  obtain ⟨offset, isOffset, identified⟩ := bind_eq_ok.mp identified
  have column : ∀ {value : Option Int} {number : Int}, columnInt value = .ok number →
      value = some number := by
    intro value number read
    cases value with
    | none => cases read
    | some own => rw [Except.ok.inj read]
  split at identified
  · cases identified
  rename_i matching
  obtain ⟨before, -, identified⟩ := bind_eq_ok.mp identified
  obtain ⟨after, -, identified⟩ := bind_eq_ok.mp identified
  obtain ⟨key, -, identified⟩ := bind_eq_ok.mp identified
  obtain ⟨metadata, -, identified⟩ := bind_eq_ok.mp identified
  obtain ⟨businessKey, -, identified⟩ := bind_eq_ok.mp identified
  obtain rfl := Except.ok.inj identified
  exact ⟨rfl, column isPartition, column isOffset, not_not.mp matching⟩

/-- The event of a row has the coordinate of the row, and the identity of the coordinate. -/
theorem rowEvent_identity {context : RunContext} {row : BronzeRow} {event : NormalizedCdcEvent}
    (read : rowEvent context row = some event) :
    row.kafkaTopic.getD "None" = event.kafkaTopic ∧ row.kafkaPartition = some event.kafkaPartition ∧
      row.kafkaOffset = some event.kafkaOffset ∧ row.eventId.getD [] = event.eventId ∧
      event.eventId = Cdc.deterministicEventId context.sha event.kafkaTopic event.kafkaPartition
        event.kafkaOffset := by
  unfold rowEvent normalizeRow at read
  split at read
  · rename_i own normalized
    obtain rfl := Option.some.inj read
    split at normalized
    · cases normalized
    · rename_i identity identified
      obtain ⟨topic, partition, offset, eventId⟩ := identify_ok identified
      split at normalized
      · cases normalized
      · rename_i completed
        obtain rfl := Except.ok.inj normalized
        unfold complete at completed
        obtain ⟨sourceTs, -, completed⟩ := bind_eq_ok.mp completed
        obtain ⟨connectorTs, -, completed⟩ := bind_eq_ok.mp completed
        obtain ⟨kafkaMessageTs, -, completed⟩ := bind_eq_ok.mp completed
        split at completed
        · cases completed
        · obtain rfl := Except.ok.inj completed
          exact ⟨topic, partition, offset, rfl, eventId⟩
  · cases read

/-- A row of customers on partition 0 of a topic. -/
def customerRow (offset : Int) (operation payload : PyStr) : BronzeRow where
  eventId := some (Cdc.deterministicEventId sha256 [116] 0 offset)
  entityName := some Entity.customers.name
  operation := some operation
  eventKeyJson := some payload
  beforeJson := some payload
  afterJson := some payload
  sourceMetadataJson := none
  sourceLsn := none
  sourceTxId := none
  sourceTsMs := none
  connectorTsMs := none
  kafkaTopic := some [116]
  kafkaPartition := some 0
  kafkaOffset := some offset
  kafkaMessageTsMs := none
  ingestedAt := some Instant.epoch
  schemaVersion := some [49]

end Silver

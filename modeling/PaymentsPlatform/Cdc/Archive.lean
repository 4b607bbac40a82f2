import PaymentsPlatform.Cdc.Keys
import PaymentsPlatform.Python.Readback

/-!
# The archive of the consumer

The batches the consumer stores, and what their object keys say about them. A key is a list of
labelled segments: none of the labels occurs twice, no value has a separator, and the numbers and
the date in it can be read back.
-/

namespace Cdc

open Python

/-- A batch of events that the parser read. -/
def Consumed (context : ParserContext) (batch : CdcBatch) : Prop :=
  ∃ events, buildBatch context.sha events = .ok batch ∧
    ∀ event ∈ events, ∃ observedAt today message,
      parseDebeziumMessage context observedAt today message = .ok (.event event)

/-- The key is the one a batch of the consumer is stored under. -/
structure Archived (context : ParserContext) (batch : CdcBatch) (key : PyStr) : Prop where
  /-- The batch is one of the consumer. -/
  consumed : Consumed context batch
  /-- The key is built from it. -/
  keyed : buildCdcObjectKey batch = .ok key

/-- What the labels of a batch of the consumer are. -/
structure Labels (batch : CdcBatch) : Prop where
  /-- The date of an instant. -/
  dated : ∃ instant : Instant, batch.eventDate = instant.date.isoformat
  /-- A digest. -/
  identity : ∀ code ∈ batch.batchId, (48 ≤ code ∧ code ≤ 57) ∨ (97 ≤ code ∧ code ≤ 102)
  /-- A partition that can be written. -/
  partition : printable batch.partition = true
  /-- A first offset that can be written. -/
  offset : printable batch.offsetStart = true

/-- The labels of a batch come from its first and its last event. -/
theorem Consumed.labels {context : ParserContext} {batch : CdcBatch}
    (consumed : Consumed context batch) : Labels batch := by
  obtain ⟨events, built, parsed⟩ := consumed
  simp only [buildBatch] at built
  split at built
  · rename_i first rest last ordered final
    have member : first ∈ events := by
      rw [← List.mem_insertionSort (fun left right => left.kafkaOffset ≤ right.kafkaOffset),
        ordered]
      exact List.mem_cons_self ..
    obtain ⟨observedAt, today, message, event⟩ := parsed first member
    obtain ⟨instant, dated⟩ := (parseValue_coordinates (parse_ok_iff.mp event).2).dated
    split at built
    · cases built
    split at built
    · cases built
    split at built
    · cases built
    split at built
    · cases built
    split at built
    · cases built
    cases written : writeIdentity [first.kafkaPartition, first.kafkaOffset, last.kafkaOffset]
        [first.kafkaTopic, first.schemaVersion] with
    | error problem => simp [written, Except.map] at built
    | ok _ =>
      rw [written] at built
      obtain rfl := Except.ok.inj built
      have readable := (writeIdentity_ok.mp written).1
      simp only [List.all_cons, List.all_nil, Bool.and_true, Bool.and_eq_true] at readable
      exact ⟨⟨instant, dated⟩, context.sha.hexdigest_digits _, readable.1, readable.2.1⟩
  · cases built

/-! ## The segments of a key -/

/-- The characters of an integer. -/
theorem intText_characters {number : Int} {code : Nat} (member : code ∈ intText number) :
    code = 45 ∨ (48 ≤ code ∧ code ≤ 57) := by
  cases number with
  | ofNat natural => exact Or.inr (natText_digits member)
  | negSucc natural =>
    rcases List.mem_append.mp member with sign | digit
    · exact Or.inl (List.mem_singleton.mp sign)
    · exact Or.inr (natText_digits digit)

/-- The characters of a date. -/
theorem isoformat_characters {date : Date} {code : Nat} (member : code ∈ date.isoformat) :
    code = 45 ∨ (48 ≤ code ∧ code ≤ 57) := by
  simp only [Date.isoformat, List.mem_append] at member
  rcases member with (((digit | dash) | digit) | dash) | digit
  · exact Or.inr (padded_digits digit)
  · exact Or.inl (List.mem_singleton.mp dash)
  · exact Or.inr (padded_digits digit)
  · exact Or.inl (List.mem_singleton.mp dash)
  · exact Or.inr (padded_digits digit)

/-- A value without the separators of a key. -/
def Separate (value : PyStr) : Prop := 47 ∉ value ∧ 61 ∉ value

/-- A value of characters that are no separators. -/
theorem Separate.of_characters {value : PyStr}
    (characters : ∀ code ∈ value, code ≠ 47 ∧ code ≠ 61) : Separate value :=
  ⟨fun member => (characters _ member).1 rfl, fun member => (characters _ member).2 rfl⟩

/-- A safe name has no separator. -/
theorem separate_name {value : PyStr} (safe : isPartitionValue value = true) : Separate value := by
  refine Separate.of_characters fun code member => ?_
  have shape := isName_characters safe code member
  simp only [isAlphanumeric, Bool.or_eq_true, Bool.and_eq_true, decide_eq_true_eq] at shape
  omega

/-- An integer has no separator. -/
theorem separate_intText (number : Int) : Separate (intText number) := by
  refine Separate.of_characters fun code member => ?_
  have shape := intText_characters member
  omega

/-- A date has no separator. -/
theorem separate_isoformat (date : Date) : Separate date.isoformat := by
  refine Separate.of_characters fun code member => ?_
  have shape := isoformat_characters member
  omega

/-- A digest has no separator. -/
theorem separate_digest {value : PyStr}
    (digits : ∀ code ∈ value, (48 ≤ code ∧ code ≤ 57) ∨ (97 ≤ code ∧ code ≤ 102)) :
    Separate value := by
  refine Separate.of_characters fun code member => ?_
  have shape := digits code member
  omega

/-- The segments of the key of a batch. -/
def keySegments (batch : CdcBatch) : List PyStr :=
  [py "cdc", py "entity=" ++ batch.entityName, py "event_date=" ++ batch.eventDate,
    py "topic=" ++ batch.topic, py "partition=" ++ intText batch.partition,
    py "offset_start=" ++ intText batch.offsetStart, py "offset_end=" ++ intText batch.offsetEnd,
    py "batch_id=" ++ batch.batchId ++ py ".parquet"]

variable {context : ParserContext} {batch : CdcBatch} {key : PyStr}

/-- The names in a key are safe. -/
theorem Archived.safe (archived : Archived context batch key) :
    isPartitionValue batch.entityName = true ∧ isPartitionValue batch.topic = true := by
  have keyed := archived.keyed
  unfold buildCdcObjectKey Cdc.safe at keyed
  obtain ⟨entity, named, keyed⟩ := bind_eq_ok.mp keyed
  obtain ⟨topic, titled, -⟩ := bind_eq_ok.mp keyed
  constructor
  · by_contra unsafe'
    rw [if_neg unsafe'] at named
    cases named
  · by_contra unsafe'
    rw [if_neg unsafe'] at titled
    cases titled

/-- The text of a key. -/
theorem Archived.text (archived : Archived context batch key) :
    key = py "cdc/entity=" ++ batch.entityName ++ py "/event_date=" ++ batch.eventDate ++
      py "/topic=" ++ batch.topic ++ py "/partition=" ++ intText batch.partition ++
      py "/offset_start=" ++ intText batch.offsetStart ++ py "/offset_end=" ++
      intText batch.offsetEnd ++ py "/batch_id=" ++ batch.batchId ++ py ".parquet" := by
  obtain ⟨entity, topic⟩ := archived.safe
  have keyed := archived.keyed
  unfold buildCdcObjectKey Cdc.safe at keyed
  rw [if_pos entity, if_pos topic] at keyed
  exact (Except.ok.inj keyed).symm

/-- A key is written as its segments. -/
theorem Archived.segments (archived : Archived context batch key) :
    key = List.intercalate [47] (keySegments batch) := by
  have first : py "cdc/entity=" = py "cdc" ++ 47 :: py "entity=" := by decide
  have date : py "/event_date=" = 47 :: py "event_date=" := by decide
  have title : py "/topic=" = 47 :: py "topic=" := by decide
  have place : py "/partition=" = 47 :: py "partition=" := by decide
  have start : py "/offset_start=" = 47 :: py "offset_start=" := by decide
  have last : py "/offset_end=" = 47 :: py "offset_end=" := by decide
  have identity : py "/batch_id=" = 47 :: py "batch_id=" := by decide
  rw [archived.text, first, date, title, place, start, last, identity]
  unfold keySegments
  simp [List.intercalate, List.intersperse]

/-- Splitting a key gives its segments. -/
theorem Archived.split (archived : Archived context batch key) :
    splitChar 47 key = keySegments batch := by
  have labels := archived.consumed.labels
  obtain ⟨entity, topic⟩ := archived.safe
  obtain ⟨instant, dated⟩ := labels.dated
  rw [archived.segments]
  refine splitChar_intercalate (List.cons_ne_nil _ _) ?_
  have labelled : ∀ {label value : PyStr}, 47 ∉ label → 47 ∉ value → 47 ∉ label ++ value := by
    intro label value plain other
    rw [List.mem_append, not_or]
    exact ⟨plain, other⟩
  intro part member
  simp only [keySegments, List.mem_cons, List.not_mem_nil, or_false] at member
  rcases member with rfl | rfl | rfl | rfl | rfl | rfl | rfl | rfl
  · decide
  · exact labelled (by decide) (separate_name entity).1
  · exact labelled (by decide) (by rw [dated]; exact (separate_isoformat _).1)
  · exact labelled (by decide) (separate_name topic).1
  · exact labelled (by decide) (separate_intText _).1
  · exact labelled (by decide) (separate_intText _).1
  · exact labelled (by decide) (separate_intText _).1
  · exact labelled (labelled (by decide) (separate_digest labels.identity).1) (by decide)

end Cdc

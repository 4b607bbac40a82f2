import PaymentsPlatform.Cdc.Archive
import PaymentsPlatform.Python.Decoded
import PaymentsPlatform.Python.Encoding
import PaymentsPlatform.Python.Utf8

/-!
# Identities

An identity is a text of components with separators between them. Read from the end, every
component but the first is a number, a digest or a safe name, and none of those has a separator;
so the text determines the components, whatever characters a topic has. Equal digests of different
texts are excluded by assumption, for the texts that occur.
-/

namespace Cdc

open Python

/-! ## Texts with separators -/

/-- The text behind the last separator is determined. -/
theorem append_separator_inj_last {separator : Nat} {left right leftRest rightRest : PyStr}
    (leftPlain : separator ∉ leftRest) (rightPlain : separator ∉ rightRest)
    (same : left ++ separator :: leftRest = right ++ separator :: rightRest) :
    left = right ∧ leftRest = rightRest := by
  have backwards := congrArg List.reverse same
  simp only [List.reverse_append, List.reverse_cons, List.append_assoc,
    List.singleton_append] at backwards
  obtain ⟨last, first⟩ := append_separator_inj (mt List.mem_reverse.mp leftPlain)
    (mt List.mem_reverse.mp rightPlain) backwards
  exact ⟨List.reverse_injective first, List.reverse_injective last⟩

/-- A natural number is determined by its digits. -/
theorem natText_injective {left right : Nat} (same : natText left = natText right) :
    left = right := by
  rw [← Json.digitsValue_natText left, same, Json.digitsValue_natText]

/-- An integer is determined by its text. -/
theorem intText_injective {left right : Int} (same : intText left = intText right) :
    left = right := by
  have sign : ∀ (positive negative : Nat), natText positive ≠ py "-" ++ natText negative := by
    intro positive negative clash
    have member : 45 ∈ natText positive := by
      rw [clash]
      exact List.mem_append_left _ (List.mem_singleton.mpr rfl)
    exact absurd (natText_digits member).1 (by decide)
  cases left with
  | ofNat one =>
    cases right with
    | ofNat two => rw [natText_injective same]
    | negSucc two => exact absurd same (sign _ _)
  | negSucc one =>
    cases right with
    | ofNat two => exact absurd same.symm (sign _ _)
    | negSucc two =>
      have digits := natText_injective (List.append_cancel_left same)
      rw [Nat.succ.inj digits]

/-- An integer has no colon. -/
theorem intText_colon (number : Int) : 58 ∉ intText number := by
  intro member
  have shape := intText_characters member
  omega

/-- A safe name has no colon. -/
theorem name_colon {extra : Nat} {value : PyStr} (safe : isName extra value = true) :
    58 ∉ value := by
  intro member
  have shape := isName_characters safe 58 member
  revert shape
  decide

/-- The characters of a safe name are code points. -/
theorem isUnicode_name {extra : Nat} {value : PyStr} (safe : isName extra value = true) :
    IsUnicode value := by
  intro code member
  have shape := isName_characters safe code member
  simp only [isAlphanumeric, Bool.or_eq_true, Bool.and_eq_true, decide_eq_true_eq] at shape
  omega

/-- The characters of an integer are code points. -/
theorem isUnicode_intText (number : Int) : IsUnicode (intText number) := by
  intro code member
  have shape := intText_characters member
  omega

/-- Texts one behind the other. -/
theorem isUnicode_append {left right : PyStr} (first : IsUnicode left) (last : IsUnicode right) :
    IsUnicode (left ++ right) := by
  intro code member
  rcases List.mem_append.mp member with here | there
  · exact first code here
  · exact last code there

/-- Texts one behind the other can be encoded when each can. -/
theorem encodable_append {left right : PyStr} (first : encodable left = true)
    (last : encodable right = true) : encodable (left ++ right) = true := by
  rw [encodable, List.all_append, Bool.and_eq_true]
  exact ⟨first, last⟩

/-! ## Events -/

/-- The text an event is identified by. -/
def eventText (topic : PyStr) (partition offset : Int) : PyStr :=
  topic ++ py ":" ++ intText partition ++ py ":" ++ intText offset

/-- `deterministic_event_id`: it raises when the text cannot be written out. -/
def eventIdentity (sha : Sha256) (topic : PyStr) (partition offset : Int) :
    Except PyError PyStr :=
  (writeIdentity [partition, offset] [topic]).map fun _ =>
    deterministicEventId sha topic partition offset

/-- The text determines the coordinate. -/
theorem eventText_injective {topic topic' : PyStr} {partition partition' offset offset' : Int}
    (same : eventText topic partition offset = eventText topic' partition' offset') :
    topic = topic' ∧ partition = partition' ∧ offset = offset' := by
  have colon : py ":" = [58] := rfl
  have shape : ∀ topic partition offset, eventText topic partition offset =
      (topic ++ 58 :: intText partition) ++ 58 :: intText offset := by
    intro topic partition offset
    simp [eventText, colon]
  rw [shape, shape] at same
  obtain ⟨front, last⟩ := append_separator_inj_last (intText_colon offset) (intText_colon offset')
    same
  obtain ⟨first, middle⟩ := append_separator_inj_last (intText_colon partition)
    (intText_colon partition') front
  exact ⟨first, intText_injective middle, intText_injective last⟩

/-- A colon in front of an integer can be encoded. -/
theorem encodable_colon_int (number : Int) : encodable (py ":" ++ intText number) = true :=
  encodable_append (by decide) (intText_encodable number)

/-- A colon is a code point. -/
theorem isUnicode_colon : IsUnicode (py ":") := by
  intro code member
  rw [List.mem_singleton.mp member]
  decide

/-- A colon in front of an integer is Unicode. -/
theorem isUnicode_colon_int (number : Int) : IsUnicode (py ":" ++ intText number) :=
  isUnicode_append isUnicode_colon (isUnicode_intText number)

/-- The text of an event is one that can be encoded. -/
theorem eventText_valid {topic : PyStr} {partition offset : Int} (unicode : IsUnicode topic)
    (whole : encodable topic = true) : IsUnicode (eventText topic partition offset) ∧
      encodable (eventText topic partition offset) = true := by
  have shape : eventText topic partition offset =
      topic ++ (py ":" ++ intText partition ++ (py ":" ++ intText offset)) := by
    simp [eventText]
  rw [shape]
  exact ⟨isUnicode_append unicode (isUnicode_append (isUnicode_colon_int _)
      (isUnicode_colon_int _)),
    encodable_append whole (encodable_append (encodable_colon_int _) (encodable_colon_int _))⟩

/-- Two events with one identity are one event. -/
theorem eventIdentity_injective {sha : Sha256} {inputs : Set Bytes}
    (free : Set.InjOn sha.hexdigest inputs) {topic topic' identity : PyStr}
    {partition partition' offset offset' : Int} (unicode : IsUnicode topic)
    (unicode' : IsUnicode topic')
    (member : utf8 (eventText topic partition offset) ∈ inputs)
    (member' : utf8 (eventText topic' partition' offset') ∈ inputs)
    (named : eventIdentity sha topic partition offset = .ok identity)
    (named' : eventIdentity sha topic' partition' offset' = .ok identity) :
    (topic, partition, offset) = (topic', partition', offset') := by
  obtain ⟨_, written, digest⟩ := map_eq_ok.mp named
  obtain ⟨_, written', digest'⟩ := map_eq_ok.mp named'
  have whole := (writeIdentity_ok.mp written).2
  have whole' := (writeIdentity_ok.mp written').2
  simp only [List.all_cons, List.all_nil, Bool.and_true] at whole whole'
  have valid := @eventText_valid topic partition offset unicode whole
  have valid' := @eventText_valid topic' partition' offset' unicode' whole'
  have bytes : utf8 (eventText topic partition offset) =
      utf8 (eventText topic' partition' offset') :=
    free member member' (digest.trans digest'.symm)
  have texts := utf8_injective valid.1 valid'.1 valid.2 valid'.2 bytes
  obtain ⟨rfl, rfl, rfl⟩ := eventText_injective texts
  rfl

/-! ## Batches -/

/-- What a batch is identified by. -/
structure Range where
  /-- The topic. -/
  topic : PyStr
  /-- The partition number. -/
  partition : Int
  /-- First offset. -/
  offsetStart : Int
  /-- Last offset. -/
  offsetEnd : Int
  /-- Version of the Bronze contract. -/
  schemaVersion : PyStr
deriving DecidableEq

/-- The names are those the settings admit: `SAFE_TOPIC` and `SAFE_NAME`. -/
structure Range.Safe (range : Range) : Prop where
  /-- The topic. -/
  topic : isName 248 range.topic = true
  /-- The version. -/
  version : isName 127 range.schemaVersion = true

/-- The text a batch is identified by. -/
def rangeText (range : Range) : PyStr :=
  range.topic ++ py ":" ++ intText range.partition ++ py ":" ++ intText range.offsetStart ++
    py ":" ++ intText range.offsetEnd ++ py ":" ++ range.schemaVersion

/-- `deterministic_batch_id`: it raises when the text cannot be written out. -/
def batchIdentity (sha : Sha256) (range : Range) : Except PyError PyStr :=
  (writeIdentity [range.partition, range.offsetStart, range.offsetEnd]
    [range.topic, range.schemaVersion]).map fun _ =>
      deterministicBatchId sha range.topic range.partition range.offsetStart range.offsetEnd
        range.schemaVersion

/-- The text determines the range. -/
theorem rangeText_injective {left right : Range} (safe : left.Safe) (safe' : right.Safe)
    (same : rangeText left = rangeText right) : left = right := by
  have colon : py ":" = [58] := rfl
  have shape : ∀ range, rangeText range = (((range.topic ++ 58 :: intText range.partition) ++
      58 :: intText range.offsetStart) ++ 58 :: intText range.offsetEnd) ++
        58 :: range.schemaVersion := by
    intro range
    simp [rangeText, colon]
  rw [shape, shape] at same
  obtain ⟨front, version⟩ := append_separator_inj_last (name_colon safe.version)
    (name_colon safe'.version) same
  obtain ⟨front, last⟩ := append_separator_inj_last (intText_colon _) (intText_colon _) front
  obtain ⟨front, start⟩ := append_separator_inj_last (intText_colon _) (intText_colon _) front
  obtain ⟨topic, partition⟩ := append_separator_inj_last (intText_colon _) (intText_colon _) front
  obtain ⟨one, two, three, four, five⟩ := left
  obtain ⟨one', two', three', four', five'⟩ := right
  cases topic
  cases intText_injective partition
  cases intText_injective start
  cases intText_injective last
  cases version
  rfl

/-- The text of a range is one that can be encoded. -/
theorem rangeText_valid {range : Range} (safe : range.Safe) :
    IsUnicode (rangeText range) ∧ encodable (rangeText range) = true := by
  have shape : rangeText range = range.topic ++ (py ":" ++ intText range.partition ++
      (py ":" ++ intText range.offsetStart ++ (py ":" ++ intText range.offsetEnd ++
        (py ":" ++ range.schemaVersion)))) := by
    simp [rangeText]
  rw [shape]
  exact ⟨isUnicode_append (isUnicode_name safe.topic) (isUnicode_append (isUnicode_colon_int _)
      (isUnicode_append (isUnicode_colon_int _) (isUnicode_append (isUnicode_colon_int _)
        (isUnicode_append isUnicode_colon (isUnicode_name safe.version))))),
    encodable_append (isName_encodable safe.topic) (encodable_append (encodable_colon_int _)
      (encodable_append (encodable_colon_int _) (encodable_append (encodable_colon_int _)
        (encodable_append (by decide) (isName_encodable safe.version)))))⟩

/-- Two ranges with one digest are one range. -/
theorem deterministicBatchId_injective {sha : Sha256} {inputs : Set Bytes}
    (free : Set.InjOn sha.hexdigest inputs) {left right : Range} (safe : left.Safe)
    (safe' : right.Safe) (member : utf8 (rangeText left) ∈ inputs)
    (member' : utf8 (rangeText right) ∈ inputs)
    (same : deterministicBatchId sha left.topic left.partition left.offsetStart left.offsetEnd
        left.schemaVersion =
      deterministicBatchId sha right.topic right.partition right.offsetStart right.offsetEnd
        right.schemaVersion) : left = right := by
  have valid := rangeText_valid safe
  have valid' := rangeText_valid safe'
  exact rangeText_injective safe safe'
    (utf8_injective valid.1 valid'.1 valid.2 valid'.2 (free member member' same))

/-! ## Object keys -/

/-- What a batch is identified by. -/
def CdcBatch.range (batch : CdcBatch) : Range :=
  ⟨batch.topic, batch.partition, batch.offsetStart, batch.offsetEnd, batch.schemaVersion⟩

/-- A built batch has the digest of its range. -/
theorem buildBatch_batchId {sha : Sha256} {events : List BronzeEvent} {batch : CdcBatch}
    (built : buildBatch sha events = .ok batch) :
    batch.batchId = deterministicBatchId sha batch.topic batch.partition batch.offsetStart
      batch.offsetEnd batch.schemaVersion := by
  simp only [buildBatch] at built
  split at built
  · split at built
    · cases built
    split at built
    · cases built
    split at built
    · cases built
    split at built
    · cases built
    split at built
    · cases built
    obtain ⟨_, -, rfl⟩ := map_eq_ok.mp built
    rfl
  · cases built

/-- The key of a batch ends with its digest. -/
theorem buildCdcObjectKey_digest {batch : CdcBatch} {key : PyStr}
    (keyed : buildCdcObjectKey batch = .ok key) :
    ∃ front, key = front ++ 61 :: (batch.batchId ++ py ".parquet") := by
  have label : py "/batch_id=" = py "/batch_id" ++ [61] := by decide
  obtain ⟨entity, -, keyed⟩ := bind_eq_ok.mp keyed
  obtain ⟨topic, -, keyed⟩ := bind_eq_ok.mp keyed
  obtain rfl := Except.ok.inj keyed
  refine ⟨py "cdc/entity=" ++ entity ++ py "/event_date=" ++ batch.eventDate ++ py "/topic=" ++
    topic ++ py "/partition=" ++ intText batch.partition ++ py "/offset_start=" ++
    intText batch.offsetStart ++ py "/offset_end=" ++ intText batch.offsetEnd ++
    py "/batch_id", ?_⟩
  rw [label]
  simp

/-- Two built batches with one key have one range. -/
theorem buildCdcObjectKey_injective {sha : Sha256} {inputs : Set Bytes}
    (free : Set.InjOn sha.hexdigest inputs) {events events' : List BronzeEvent}
    {left right : CdcBatch} {key : PyStr} (safe : left.range.Safe) (safe' : right.range.Safe)
    (member : utf8 (rangeText left.range) ∈ inputs)
    (member' : utf8 (rangeText right.range) ∈ inputs)
    (built : buildBatch sha events = .ok left) (built' : buildBatch sha events' = .ok right)
    (keyed : buildCdcObjectKey left = .ok key) (keyed' : buildCdcObjectKey right = .ok key) :
    left.range = right.range := by
  obtain ⟨front, text⟩ := buildCdcObjectKey_digest keyed
  obtain ⟨front', text'⟩ := buildCdcObjectKey_digest keyed'
  have digest : ∀ {batch : CdcBatch} {events}, buildBatch sha events = .ok batch →
      61 ∉ batch.batchId ++ py ".parquet" := by
    intro batch events built
    rw [List.mem_append, not_or]
    refine ⟨?_, by decide⟩
    rw [buildBatch_batchId built]
    exact (separate_digest (sha.hexdigest_digits _)).2
  have last := (append_separator_inj_last (digest built) (digest built')
    (text.symm.trans text')).2
  have same := List.append_cancel_right last
  rw [buildBatch_batchId built, buildBatch_batchId built'] at same
  exact deterministicBatchId_injective free safe safe' member member' same

/-- What a piece of evidence is identified by. -/
structure DlqPlace where
  /-- The dead-letter queue. -/
  dlqName : PyStr
  /-- The consumer group. -/
  consumerGroup : PyStr
  /-- The topic. -/
  topic : PyStr
  /-- The partition number. -/
  partition : Int
  /-- The offset. -/
  offset : Int
deriving DecidableEq

/-- The place of a piece of evidence. -/
def PoisonEvent.place (event : PoisonEvent) (dlqName consumerGroup : PyStr) : DlqPlace :=
  ⟨dlqName, consumerGroup, event.originalTopic, event.originalPartition, event.originalOffset⟩

/-- The names in a key are safe, and its text starts with its place. -/
theorem buildDlqObjectKey_text {dlqName consumerGroup key : PyStr} {event : PoisonEvent}
    (keyed : buildDlqObjectKey dlqName consumerGroup event = .ok key) :
    (47 ∉ dlqName ∧ 47 ∉ consumerGroup ∧ 47 ∉ event.originalTopic) ∧
      key = py "cdc-dlq/dlq=" ++ (dlqName ++ 47 :: (py "consumer_group=" ++ (consumerGroup ++
        47 :: (py "topic=" ++ (event.originalTopic ++ 47 :: (py "partition=" ++
          (intText event.originalPartition ++ 47 :: (py "offset=" ++
            (intText event.originalOffset ++ 47 :: (py "event_id=" ++ event.eventId ++
              py ".json")))))))))) := by
  have group : py "/consumer_group=" = 47 :: py "consumer_group=" := by decide
  have title : py "/topic=" = 47 :: py "topic=" := by decide
  have place : py "/partition=" = 47 :: py "partition=" := by decide
  have start : py "/offset=" = 47 :: py "offset=" := by decide
  have identity : py "/event_id=" = 47 :: py "event_id=" := by decide
  have plain : ∀ {value name result}, safe value name = .ok result → result = value ∧
      47 ∉ value := by
    intro value name result accepted
    unfold safe at accepted
    split at accepted
    · rename_i valid
      exact ⟨(Except.ok.inj accepted).symm, (separate_name valid).1⟩
    · cases accepted
  obtain ⟨one, named, keyed⟩ := bind_eq_ok.mp keyed
  obtain ⟨two, grouped, keyed⟩ := bind_eq_ok.mp keyed
  obtain ⟨three, titled, keyed⟩ := bind_eq_ok.mp keyed
  obtain ⟨rfl, first⟩ := plain named
  obtain ⟨rfl, second⟩ := plain grouped
  obtain ⟨rfl, third⟩ := plain titled
  refine ⟨⟨first, second, third⟩, ?_⟩
  rw [← Except.ok.inj keyed, group, title, place, start, identity]
  simp

/-- Two pieces of evidence with one key have one place. -/
theorem buildDlqObjectKey_injective {dlqName dlqName' consumerGroup consumerGroup' key : PyStr}
    {left right : PoisonEvent} (keyed : buildDlqObjectKey dlqName consumerGroup left = .ok key)
    (keyed' : buildDlqObjectKey dlqName' consumerGroup' right = .ok key) :
    left.place dlqName consumerGroup = right.place dlqName' consumerGroup' := by
  obtain ⟨⟨name, group, topic⟩, text⟩ := buildDlqObjectKey_text keyed
  obtain ⟨⟨name', group', topic'⟩, text'⟩ := buildDlqObjectKey_text keyed'
  have rest := List.append_cancel_left (text.symm.trans text')
  obtain ⟨sameName, rest⟩ := append_separator_inj name name' rest
  obtain ⟨sameGroup, rest⟩ := append_separator_inj group group' (List.append_cancel_left rest)
  obtain ⟨sameTopic, rest⟩ := append_separator_inj topic topic' (List.append_cancel_left rest)
  obtain ⟨samePartition, rest⟩ := append_separator_inj (separate_intText _).1
    (separate_intText _).1 (List.append_cancel_left rest)
  obtain ⟨sameOffset, -⟩ := append_separator_inj (separate_intText _).1
    (separate_intText _).1 (List.append_cancel_left rest)
  unfold PoisonEvent.place
  rw [sameName, sameGroup, sameTopic, intText_injective samePartition,
    intText_injective sameOffset]

/-- The identities of events, batches and objects determine what they are made from, as long as no
two of the digested texts collide. -/
theorem identities_injective (sha : Sha256) (inputs : Set Bytes)
    (free : Set.InjOn sha.hexdigest inputs) :
    (∀ {topic topic' identity : PyStr} {partition partition' offset offset' : Int},
      IsUnicode topic → IsUnicode topic' →
      utf8 (eventText topic partition offset) ∈ inputs →
      utf8 (eventText topic' partition' offset') ∈ inputs →
      eventIdentity sha topic partition offset = .ok identity →
      eventIdentity sha topic' partition' offset' = .ok identity →
        (topic, partition, offset) = (topic', partition', offset')) ∧
    (∀ {left right : Range} {identity : PyStr}, left.Safe → right.Safe →
      utf8 (rangeText left) ∈ inputs → utf8 (rangeText right) ∈ inputs →
      batchIdentity sha left = .ok identity → batchIdentity sha right = .ok identity →
        left = right) ∧
    (∀ {events events' : List BronzeEvent} {left right : CdcBatch} {key : PyStr},
      left.range.Safe → right.range.Safe → utf8 (rangeText left.range) ∈ inputs →
      utf8 (rangeText right.range) ∈ inputs → buildBatch sha events = .ok left →
      buildBatch sha events' = .ok right → buildCdcObjectKey left = .ok key →
      buildCdcObjectKey right = .ok key → left.range = right.range) ∧
    ∀ {dlqName dlqName' consumerGroup consumerGroup' key : PyStr} {left right : PoisonEvent},
      buildDlqObjectKey dlqName consumerGroup left = .ok key →
      buildDlqObjectKey dlqName' consumerGroup' right = .ok key →
        left.place dlqName consumerGroup = right.place dlqName' consumerGroup' := by
  refine ⟨fun unicode unicode' member member' named named' =>
    eventIdentity_injective free unicode unicode' member member' named named', ?_,
    fun safe safe' member member' built built' keyed keyed' =>
      buildCdcObjectKey_injective free safe safe' member member' built built' keyed keyed',
    fun keyed keyed' => buildDlqObjectKey_injective keyed keyed'⟩
  intro left right identity safe safe' member member' named named'
  obtain ⟨_, -, digest⟩ := map_eq_ok.mp named
  obtain ⟨_, -, digest'⟩ := map_eq_ok.mp named'
  exact deterministicBatchId_injective free safe safe' member member' (digest.trans digest'.symm)

/-- The digests of two offsets differ, so their identities do. -/
theorem neighbours_distinct :
    Set.InjOn sha256.hexdigest {utf8 (eventText "t" 0 1), utf8 (eventText "t" 0 2)} ∧
      eventIdentity sha256 "t" 0 1 ≠ eventIdentity sha256 "t" 0 2 := by
  have apart : sha256.hexdigest (utf8 (eventText "t" 0 1)) ≠
      sha256.hexdigest (utf8 (eventText "t" 0 2)) := by
    decide +kernel
  have free : Set.InjOn sha256.hexdigest
      {utf8 (eventText "t" 0 1), utf8 (eventText "t" 0 2)} := by
    rintro left (rfl | rfl) right (rfl | rfl) same
    · rfl
    · exact absurd same apart
    · exact absurd same.symm apart
    · rfl
  refine ⟨free, fun same => ?_⟩
  have unicode : IsUnicode (py "t") := by
    intro code member
    rw [List.mem_singleton.mp member]
    decide
  have clash := (identities_injective sha256 _ free).1 unicode unicode (Or.inl rfl) (Or.inr rfl)
    rfl same.symm
  cases clash

end Cdc

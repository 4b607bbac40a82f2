import PaymentsPlatform.Cdc.Classification
import PaymentsPlatform.Silver.Discovery

/-!
# Discovery in replay order

The labels of the consumer's batches are recovered from their keys, the filters select by these
labels, and the objects that are found come in the order of the entities and, inside a partition,
in the order of their offsets.
-/

namespace Silver

open Python Cdc

variable {context : ParserContext} {batch : CdcBatch} {key : PyStr}

/-! ## What a key says -/

/-- What is read from the key of a batch. -/
structure Recovered (batch : CdcBatch) (key : PyStr) : Prop where
  /-- The entity. -/
  entity : partitionValue key "entity" = some batch.entityName
  /-- The partition, as a text that `int` reads. -/
  partition : ∃ text, partitionValue key "partition" = some text ∧
    parseInt text = some batch.partition
  /-- The first offset, as a text that `int` reads. -/
  offset : ∃ text, partitionValue key "offset_start" = some text ∧
    parseInt text = some batch.offsetStart
  /-- The date, as a text that `date.fromisoformat` reads. -/
  date : partitionValue key "event_date" = some batch.eventDate ∧
    ∃ instant : Instant, batch.eventDate = instant.date.isoformat ∧
      dateFromIsoformat batch.eventDate = some instant.date
  /-- The entity, as the processor reads it. -/
  processed : entityFromKey key = batch.entityName

/-- A label of the key of a batch. -/
theorem partitionValue_segments (archived : Archived context batch key) (name : PyStr) :
    partitionValue key name = (keySegments batch).findSome? (dropStart (name ++ py "=")) := by
  unfold partitionValue
  rw [archived.split]

/-- The labels of a batch are recovered from its key. -/
theorem key_recovered (archived : Archived context batch key) : Recovered batch key := by
  have labels := archived.consumed.labels
  obtain ⟨instant, dated⟩ := labels.dated
  have own : ∀ label value : PyStr, dropStart label (label ++ value) = some value :=
    fun label value => dropStart_eq_some.mpr rfl
  have entity : partitionValue key "entity" = some batch.entityName := by
    rw [partitionValue_segments archived]
    exact (own (py "entity=") _)
  have date : partitionValue key "event_date" = some batch.eventDate := by
    rw [partitionValue_segments archived]
    exact (own (py "event_date=") _)
  have partition : partitionValue key "partition" = some (intText batch.partition) := by
    rw [partitionValue_segments archived]
    exact (own (py "partition=") _)
  have offset : partitionValue key "offset_start" = some (intText batch.offsetStart) := by
    rw [partitionValue_segments archived]
    exact (own (py "offset_start=") _)
  refine ⟨entity, ⟨_, partition, parseInt_intText labels.partition⟩,
    ⟨_, offset, parseInt_intText labels.offset⟩, ⟨date, instant, dated, ?_⟩, ?_⟩
  · rw [dated]
    exact dateFromIsoformat_isoformat instant.date_valid.1
  · unfold entityFromKey
    rw [archived.split]
    unfold keySegments
    rw [List.find?_cons_of_neg (by decide), List.find?_cons_of_pos
      (by rw [decide_eq_true_eq]; exact List.prefix_append _ _)]
    rfl

/-! ## The entity filter -/

/-- A text occurs in another one where the other can be cut around it. -/
theorem contains_iff {needle text : PyStr} :
    contains needle text = true ↔ ∃ before after, text = before ++ needle ++ after := by
  induction text with
  | nil =>
    rw [contains, List.isEmpty_iff]
    constructor
    · rintro rfl
      exact ⟨[], [], rfl⟩
    · rintro ⟨before, after, same⟩
      have empty := List.append_eq_nil_iff.mp same.symm
      exact (List.append_eq_nil_iff.mp empty.1).2
  | cons code rest ih =>
    rw [contains, Bool.or_eq_true, ih]
    constructor
    · rintro (here | ⟨before, after, later⟩)
      · obtain ⟨after, found⟩ := Option.isSome_iff_exists.mp here
        exact ⟨[], after, dropStart_eq_some.mp found⟩
      · exact ⟨code :: before, after, by rw [later]; rfl⟩
    · rintro ⟨before, after, same⟩
      cases before with
      | nil => exact Or.inl (Option.isSome_iff_exists.mpr ⟨after, dropStart_eq_some.mpr same⟩)
      | cons first before => exact Or.inr ⟨before, after, (List.cons.inj same).2⟩

/-- A text ends with the text that was appended to it. -/
theorem endsWith_append (text ending : PyStr) : endsWith ending (text ++ ending) = true := by
  unfold endsWith
  rw [List.reverse_append]
  exact Option.isSome_iff_exists.mpr ⟨text.reverse, dropStart_eq_some.mpr rfl⟩

/-- A text starts with the text that was put before it. -/
theorem startsWith_append (start text : PyStr) : startsWith start (start ++ text) = true :=
  Option.isSome_iff_exists.mpr ⟨text, dropStart_eq_some.mpr rfl⟩

/-- Where a text is cut at a separator: at the first one, or later. -/
theorem cut_at_separator {separator : Nat} {part tail left right : PyStr}
    (plain : separator ∉ part) (same : part ++ separator :: tail = left ++ separator :: right) :
    (left = part ∧ right = tail) ∨
      ∃ more, left = part ++ separator :: more ∧ tail = more ++ separator :: right := by
  rcases List.append_eq_append_iff.mp same with ⟨more, longer, rest⟩ | ⟨more, shorter, rest⟩
  · cases more with
    | nil =>
      rw [List.append_nil] at longer
      exact Or.inl ⟨longer, (List.cons.inj rest).2.symm⟩
    | cons code more =>
      obtain ⟨rfl, follows⟩ := List.cons.inj rest
      exact Or.inr ⟨more, longer, follows⟩
  · cases more with
    | nil =>
      rw [List.append_nil] at shorter
      exact Or.inl ⟨shorter.symm, (List.cons.inj rest).2⟩
    | cons code more =>
      obtain ⟨rfl, -⟩ := List.cons.inj rest
      exact absurd (shorter ▸ List.mem_append_right _ (List.mem_cons_self ..)) plain

/-- A text without the separator that ends a longer text ends what follows the separator. -/
theorem suffix_after_separator {separator : Nat} {needle left more : PyStr}
    (plain : separator ∉ needle) (ends : needle <:+ left ++ separator :: more) :
    needle <:+ more := by
  rcases List.suffix_or_suffix_of_suffix ends (List.suffix_append left (separator :: more)) with
    inside | outside
  · rcases List.suffix_cons_iff.mp inside with whole | later
    · exact absurd (whole ▸ List.mem_cons_self ..) plain
    · exact later
  · exact absurd (outside.subset (List.mem_cons_self ..)) plain

/-- A text without the separator that ends just before a separator ends a part; the cut is after
the first part, or a later part ends with the text. -/
theorem suffix_before_separator {separator : Nat} {needle : PyStr} (plain : separator ∉ needle)
    {parts : List PyStr} (separate : ∀ part ∈ parts, separator ∉ part) {left right : PyStr}
    (cut : List.intercalate [separator] parts = left ++ separator :: right)
    (ends : needle <:+ left) :
    (∃ rest, parts = left :: rest ∧ right = List.intercalate [separator] rest) ∨
      ∃ part ∈ parts.tail, needle <:+ part := by
  induction parts generalizing left with
  | nil =>
    have empty : ([] : PyStr) = left ++ separator :: right := cut
    cases List.append_eq_nil_iff.mp empty.symm with
    | intro _ no => cases no
  | cons first rest ih =>
    have head := separate first (List.mem_cons_self ..)
    by_cases last : rest = []
    · subst last
      rw [List.intercalate_singleton] at cut
      exact absurd (cut ▸ List.mem_append_right _ (List.mem_cons_self ..)) head
    · rw [intercalate_cons last] at cut
      rcases cut_at_separator head cut with ⟨rfl, rfl⟩ | ⟨more, rfl, tail⟩
      · exact Or.inl ⟨rest, rfl, rfl⟩
      · have later := suffix_after_separator plain ends
        rcases ih (fun part member => separate part (List.mem_cons_of_mem _ member)) tail later with
          ⟨others, same, -⟩ | ⟨part, member, found⟩
        · exact Or.inr ⟨more, by rw [List.tail_cons, same]; exact List.mem_cons_self .., later⟩
        · exact Or.inr ⟨part, List.mem_of_mem_tail member, found⟩

/-- The key of a batch, cut at its equals signs. -/
def keyValues (batch : CdcBatch) : List PyStr :=
  [py "cdc/entity", batch.entityName ++ py "/event_date", batch.eventDate ++ py "/topic",
    batch.topic ++ py "/partition", intText batch.partition ++ py "/offset_start",
    intText batch.offsetStart ++ py "/offset_end", intText batch.offsetEnd ++ py "/batch_id",
    batch.batchId ++ py ".parquet"]

/-- A key is written as its values. -/
theorem key_values (archived : Archived context batch key) :
    key = List.intercalate [61] (keyValues batch) := by
  have first : py "cdc/entity=" = py "cdc/entity" ++ [61] := by decide
  have date : py "/event_date=" = py "/event_date" ++ [61] := by decide
  have title : py "/topic=" = py "/topic" ++ [61] := by decide
  have place : py "/partition=" = py "/partition" ++ [61] := by decide
  have start : py "/offset_start=" = py "/offset_start" ++ [61] := by decide
  have last : py "/offset_end=" = py "/offset_end" ++ [61] := by decide
  have identity : py "/batch_id=" = py "/batch_id" ++ [61] := by decide
  rw [archived.text, first, date, title, place, start, last, identity]
  unfold keyValues
  simp [List.intercalate, List.intersperse]

/-- No value of a key has an equals sign. -/
theorem keyValues_separate (archived : Archived context batch key) :
    ∀ part ∈ keyValues batch, 61 ∉ part := by
  have labels := archived.consumed.labels
  obtain ⟨entity, topic⟩ := archived.safe
  obtain ⟨instant, dated⟩ := labels.dated
  have labelled : ∀ {label value : PyStr}, 61 ∉ value → 61 ∉ label → 61 ∉ value ++ label := by
    intro label value plain other
    rw [List.mem_append, not_or]
    exact ⟨plain, other⟩
  intro part member
  simp only [keyValues, List.mem_cons, List.not_mem_nil, or_false] at member
  rcases member with rfl | rfl | rfl | rfl | rfl | rfl | rfl | rfl
  · decide
  · exact labelled (separate_name entity).2 (by decide)
  · exact labelled (by rw [dated]; exact (separate_isoformat _).2) (by decide)
  · exact labelled (separate_name topic).2 (by decide)
  · exact labelled (separate_intText _).2 (by decide)
  · exact labelled (separate_intText _).2 (by decide)
  · exact labelled (separate_intText _).2 (by decide)
  · exact labelled (separate_digest labels.identity).2 (by decide)

/-- Only the first label of a key ends with the word of the filter. -/
theorem keyValues_entity {part : PyStr} (member : part ∈ (keyValues batch).tail) :
    ¬ py "entity" <:+ part := by
  have other : ∀ {value label : PyStr}, (py "entity").length ≤ label.length →
      ¬ py "entity" <:+ label → ¬ py "entity" <:+ value ++ label := by
    intro value label long apart ends
    exact apart (List.suffix_of_suffix_length_le ends (List.suffix_append value label) long)
  simp only [keyValues, List.tail_cons, List.mem_cons, List.not_mem_nil, or_false] at member
  rcases member with rfl | rfl | rfl | rfl | rfl | rfl | rfl
  all_goals exact other (by decide) (by decide)

/-- The filter text occurs in a key exactly at its entity. -/
theorem contains_entity_iff (archived : Archived context batch key) (entity : PyStr) :
    contains (py "entity=" ++ entity ++ py "/") key = true ↔
      py "cdc/entity=" ++ entity ++ py "/" <+: key := by
  have label : py "entity=" = py "entity" ++ [61] := by decide
  have first : py "cdc/entity=" = py "cdc/" ++ py "entity=" := by decide
  rw [contains_iff]
  constructor
  · rintro ⟨before, after, found⟩
    have cut : List.intercalate [61] (keyValues batch) =
        (before ++ py "entity") ++ 61 :: (entity ++ py "/" ++ after) := by
      rw [← key_values archived, found, label]
      simp
    rcases suffix_before_separator (by decide) (keyValues_separate archived) cut
      (List.suffix_append before (py "entity")) with ⟨rest, same, -⟩ | ⟨part, member, ends⟩
    · have place : before = py "cdc/" := by
        have head : py "cdc/" ++ py "entity" = before ++ py "entity" := (List.cons.inj same).1
        exact (List.append_cancel_right head).symm
      refine ⟨after, ?_⟩
      rw [found, place, first]
      simp
    · exact absurd ends (keyValues_entity member)
  · rintro ⟨after, found⟩
    refine ⟨py "cdc/", after, ?_⟩
    rw [← found, first]
    simp

/-! ## The filters -/

/-- A request selects a batch. A filter on the entity that has a slash in it goes on where the
entity ends. -/
structure Selects (request : DiscoverRequest) (batch : CdcBatch) (key : PyStr) : Prop where
  /-- The entity is the one asked for. -/
  entity : ∀ entity, given request.entity = some entity →
    entity = batch.entityName ∨ (47 ∈ entity ∧ py "cdc/entity=" ++ entity ++ py "/" <+: key)
  /-- The date is between the dates asked for. -/
  date : ∃ instant : Instant, batch.eventDate = instant.date.isoformat ∧
    between request.fromDate request.toDate instant.date = true

/-- What the filter on the entity does. -/
theorem matchesEntity_iff (archived : Archived context batch key) (asked : Option PyStr) :
    matchesEntity asked key = true ↔ ∀ entity, given asked = some entity →
      entity = batch.entityName ∨ (47 ∈ entity ∧ py "cdc/entity=" ++ entity ++ py "/" <+: key) := by
  unfold matchesEntity
  cases asking : given asked with
  | none => simp
  | some entity =>
    dsimp only
    rw [contains_entity_iff archived]
    have slash : py "/" = [47] := rfl
    have shape : key = py "cdc/entity=" ++ batch.entityName ++ (47 :: (py "event_date=" ++
        batch.eventDate ++ py "/topic=" ++ batch.topic ++ py "/partition=" ++
        intText batch.partition ++ py "/offset_start=" ++ intText batch.offsetStart ++
        py "/offset_end=" ++ intText batch.offsetEnd ++ py "/batch_id=" ++ batch.batchId ++
        py ".parquet")) := by
      have date : py "/event_date=" = 47 :: py "event_date=" := by decide
      rw [archived.text, date]
      simp
    constructor
    · intro found other same
      obtain rfl := Option.some.inj same
      by_cases slashed : 47 ∈ entity
      · exact Or.inr ⟨slashed, found⟩
      · obtain ⟨after, text⟩ := found
        rw [shape, slash, List.append_assoc, List.append_assoc, List.append_assoc,
          List.append_cancel_left_eq, List.singleton_append] at text
        exact Or.inl (append_separator_inj slashed (separate_name archived.safe.1).1 text).1
    · intro selected
      rcases selected entity rfl with rfl | ⟨-, found⟩
      · rw [shape, slash]
        exact ⟨_, by rw [List.append_assoc, List.append_assoc, List.append_assoc]; rfl⟩
      · exact found

/-- The filters select by the labels of a batch. -/
theorem matchesItem_iff {request : DiscoverRequest} {item : InputObject}
    (cdc : request.sourceType = .cdc) (archived : Archived context batch item.objectKey) :
    matchesItem request item = true ↔ Selects request batch item.objectKey := by
  have recovered := key_recovered archived
  obtain ⟨found, instant, dated, read⟩ := recovered.date
  have ours : isCdcKey item.objectKey = true := by
    have start : py "cdc/entity=" = py "cdc/" ++ py "entity=" := by decide
    unfold isCdcKey
    rw [Bool.and_eq_true]
    refine ⟨by rw [archived.text]; exact endsWith_append _ _, ?_⟩
    rw [archived.text, start]
    simp only [List.append_assoc]
    exact startsWith_append _ _
  have filled : given (some batch.eventDate) = some batch.eventDate := by
    have nonempty : batch.eventDate ≠ [] := by
      intro empty
      rw [empty] at read
      cases read
    obtain ⟨code, rest, text⟩ := List.exists_cons_of_ne_nil nonempty
    rw [text]
    rfl
  have dates : matchesDate request.fromDate request.toDate
      (partitionValue item.objectKey "event_date") =
        between request.fromDate request.toDate instant.date := by
    unfold matchesDate
    rw [found, filled]
    dsimp only
    rw [read]
  unfold matchesItem
  rw [cdc]
  dsimp only
  rw [ours, dates, Bool.true_and, Bool.and_eq_true, matchesEntity_iff archived]
  constructor
  · rintro ⟨entity, date⟩
    exact ⟨entity, instant, dated, date⟩
  · rintro ⟨entity, other, same, date⟩
    refine ⟨entity, ?_⟩
    have equal : some instant.date = some other.date := by
      rw [← read, same, dateFromIsoformat_isoformat other.date_valid.1]
    rw [Option.some.inj equal]
    exact date

/-! ## The order -/

/-- What a batch is sorted by. -/
def batchKey (batch : CdcBatch) (key : PyStr) : ReplayKey :=
  toLex (entityOrder batch.entityName, toLex (batch.entityName, toLex (batch.partition,
    toLex (batch.offsetStart, key))))

/-- The object of a batch is sorted by the labels of the batch. -/
theorem replayKey_archived {item : InputObject}
    (archived : Archived context batch item.objectKey) :
    replayKey .cdc item = .ok (batchKey batch item.objectKey) := by
  have recovered := key_recovered archived
  obtain ⟨partition, here, number⟩ := recovered.partition
  obtain ⟨offset, there, count⟩ := recovered.offset
  have read : ∀ {text : PyStr} {value : Int}, parseInt text = some value →
      intOrZero (some text) = .ok value := by
    intro text value parsed
    unfold intOrZero
    cases text with
    | nil => cases parsed
    | cons code rest =>
      dsimp only [given]
      rw [parsed]
  unfold replayKey
  dsimp only
  rw [recovered.entity, here, there, read number, read count]
  rfl

/-- Objects of batches all have a key to be sorted by. -/
theorem withKeys_archived {items : List InputObject}
    (archived : ∀ item ∈ items, ∃ batch, Archived context batch item.objectKey) :
    ∃ keyed, withKeys .cdc items = .ok keyed ∧ keyed.map Prod.snd = items ∧
      ∀ entry ∈ keyed, replayKey .cdc entry.2 = .ok entry.1 := by
  induction items with
  | nil => exact ⟨[], rfl, rfl, fun _ no => (by cases no)⟩
  | cons item items ih =>
    obtain ⟨keyed, found, same, each⟩ := ih fun other member =>
      archived other (List.mem_cons_of_mem _ member)
    obtain ⟨batch, stored⟩ := archived item (List.mem_cons_self ..)
    have key := replayKey_archived stored
    refine ⟨(batchKey batch item.objectKey, item) :: keyed, ?_, by rw [List.map_cons, same], ?_⟩
    · rw [withKeys, key, found]
      rfl
    · intro entry member
      rcases List.mem_cons.mp member with rfl | later
      · exact key
      · exact each entry later

/-- One object comes before another one: the entities are in order, and so are the first offsets
of one entity and one partition. -/
def ReplayedBefore (context : ParserContext) (one two : InputObject) : Prop :=
  ∀ first second, Archived context first one.objectKey → Archived context second two.objectKey →
    entityOrder first.entityName ≤ entityOrder second.entityName ∧
      (first.entityName = second.entityName → first.partition = second.partition →
        first.offsetStart ≤ second.offsetStart)

/-- The order of the sort puts entities and offsets in order. -/
theorem batchKey_le {first second : CdcBatch} {one two : PyStr}
    (ordered : batchKey first one ≤ batchKey second two) :
    entityOrder first.entityName ≤ entityOrder second.entityName ∧
      (first.entityName = second.entityName → first.partition = second.partition →
        first.offsetStart ≤ second.offsetStart) := by
  rcases Prod.Lex.le_iff.mp ordered with rank | ⟨rank, rest⟩
  · have earlier : entityOrder first.entityName < entityOrder second.entityName := rank
    refine ⟨le_of_lt earlier, fun same _ => ?_⟩
    rw [same] at earlier
    exact absurd earlier (lt_irrefl _)
  · refine ⟨le_of_eq rank, fun same place => ?_⟩
    rcases Prod.Lex.le_iff.mp rest with entity | ⟨-, rest⟩
    · exact absurd (show first.entityName < second.entityName from entity)
        (by rw [same]; exact lt_irrefl _)
    · rcases Prod.Lex.le_iff.mp rest with partition | ⟨-, rest⟩
      · exact absurd (show first.partition < second.partition from partition)
          (by rw [place]; exact lt_irrefl _)
      · rcases Prod.Lex.le_iff.mp rest with offset | ⟨offset, -⟩
        · exact le_of_lt offset
        · exact le_of_eq offset

/-- A listing shows the objects of batches. -/
theorem archived_listed (archived : Archived context batch key) (backend : Backend) :
    listed backend key = true := by
  cases backend with
  | minio attempts =>
    have nonempty : key ≠ [] := by
      rw [archived.segments]
      exact List.cons_ne_nil _ _
    simpa [listed] using nonempty
  | filesystem roots =>
    have name : afterLast 47 key = py "batch_id=" ++ batch.batchId ++ py ".parquet" := by
      unfold afterLast
      rw [archived.split]
      rfl
    have visible : endsWith (py ".metadata.json") (afterLast 47 key) = false := by
      unfold endsWith
      rw [name, List.reverse_append]
      rfl
    unfold listed
    dsimp only
    rw [visible, name]
    rfl

/-- An object of a batch is looked at when it is under the prefix that is asked for. -/
theorem candidates_archived {bucket : BronzeBucket} {request : DiscoverRequest}
    {items : List InputObject} (cdc : request.sourceType = .cdc)
    (found : candidates bucket request = .ok items) (unnamed : given request.inputObject = none)
    {stored : StoredObject} (member : stored ∈ bucket.objects)
    (archived : Archived context batch stored.location.key)
    (under : ∀ start, given request.inputPrefix = some start →
      strip (· = 47) start <+: stored.location.key) :
    inputFromStored bucket stored ∈ items := by
  unfold candidates at found
  rw [unnamed] at found
  obtain rfl := Except.ok.inj found
  refine List.mem_map_of_mem (List.mem_filter.mpr ⟨member, ?_⟩)
  rw [archived_listed archived, Bool.true_and]
  cases asked : given request.inputPrefix with
  | none =>
    have start : strip (· = 47) (defaultPrefix request.sourceType) = py "cdc" := by
      rw [cdc]
      decide
    rw [Option.getD_none, start, archived.segments]
    exact startsWith_append (py "cdc") _
  | some start =>
    obtain ⟨rest, text⟩ := under start asked
    rw [Option.getD_some, ← text]
    exact startsWith_append _ rest

/-- Discovery finds the consumer's objects in replay order. The labels of every batch are recovered
from its key; of the objects that are looked at, those that the request selects are found, in an
order in which entities and offsets are in order, up to the number that is asked for. Whatever the
order of the listing, an object of a batch is looked at when it is under the prefix. -/
theorem discovery_replays {context : ParserContext} {bucket : BronzeBucket}
    {request : DiscoverRequest} {items : List InputObject} (cdc : request.sourceType = .cdc)
    (found : candidates bucket request = .ok items)
    (archived : ∀ item ∈ items, isCdcKey item.objectKey = true →
      ∃ batch, Archived context batch item.objectKey) :
    (∀ batch key, Archived context batch key → Recovered batch key) ∧
      (given request.inputObject = none → ∀ stored ∈ bucket.objects, ∀ batch,
        Archived context batch stored.location.key →
        (∀ start, given request.inputPrefix = some start →
          strip (· = 47) start <+: stored.location.key) →
        inputFromStored bucket stored ∈ items) ∧
      ∃ ordered, discover bucket request = .ok (sliceTo request.maxObjects ordered) ∧
        ordered.Perm (items.filter (matchesItem request)) ∧
        (∀ item ∈ items, ∀ batch, Archived context batch item.objectKey →
          (item ∈ ordered ↔ Selects request batch item.objectKey)) ∧
        ordered.Pairwise (ReplayedBefore context) := by
  refine ⟨fun batch key stored => key_recovered stored,
    fun unnamed stored member batch own under =>
      candidates_archived cdc found unnamed member own under, ?_⟩
  have selected : ∀ item ∈ items.filter (matchesItem request),
      ∃ batch, Archived context batch item.objectKey := by
    intro item member
    obtain ⟨here, matching⟩ := List.mem_filter.mp member
    refine archived item here ?_
    unfold matchesItem at matching
    rw [cdc] at matching
    simp only [Bool.and_eq_true] at matching
    exact matching.1.1
  obtain ⟨keyed, computed, same, each⟩ := withKeys_archived selected
  have sorted := List.pairwise_insertionSort KeyedOrder keyed
  have permuted : ((keyed.insertionSort KeyedOrder).map Prod.snd).Perm
      (items.filter (matchesItem request)) := by
    rw [← same]
    exact (List.perm_insertionSort KeyedOrder keyed).map Prod.snd
  refine ⟨(keyed.insertionSort KeyedOrder).map Prod.snd, ?_, permuted, ?_, ?_⟩
  · unfold discover
    rw [found, cdc]
    change (withKeys .cdc (items.filter (matchesItem request))).bind _ = _
    rw [computed]
    rfl
  · intro item member batch stored
    rw [permuted.mem_iff, List.mem_filter, ← matchesItem_iff cdc stored]
    exact ⟨And.right, fun matching => ⟨member, matching⟩⟩
  · rw [List.pairwise_map]
    refine sorted.imp_of_mem ?_
    intro one two left right ordered first second firstStored secondStored
    have own := each one ((List.mem_insertionSort KeyedOrder).mp left)
    have other := each two ((List.mem_insertionSort KeyedOrder).mp right)
    rw [replayKey_archived firstStored] at own
    rw [replayKey_archived secondStored] at other
    have keys : batchKey first one.2.objectKey ≤ batchKey second two.2.objectKey := by
      rw [Except.ok.inj own, Except.ok.inj other]
      exact ordered
    exact batchKey_le keys

/-- The deletion of a customer at an offset. -/
def deletionRecord (offset : Int) : RawKafkaMessage where
  topic := "t.customers"
  partition := 0
  offset := offset
  key := none
  value := none
  timestampMs := none

/-- Its event. -/
def deletionEvent (offset : Int) : BronzeEvent where
  eventId := deterministicEventId sha256 (py "t.customers") 0 offset
  entityName := "customers"
  operation := "t"
  isSnapshot := false
  isDeleted := true
  isTombstone := true
  eventKeyJson := none
  beforeJson := none
  afterJson := none
  sourceMetadataJson := none
  sourceLsn := none
  sourceTxId := none
  sourceTsMs := none
  connectorTsMs := none
  kafkaTopic := "t.customers"
  kafkaPartition := 0
  kafkaOffset := offset
  kafkaMessageTsMs := none
  ingestedAt := Instant.epoch
  eventDate := Instant.epoch.date.isoformat
  schemaVersion := "cdc-bronze-v1"
  rawEventJson := none

/-- The batch of the event. -/
def deletionBatch (offset : Int) : CdcBatch where
  batchId := deterministicBatchId sha256 (py "t.customers") 0 offset offset "cdc-bronze-v1"
  topic := "t.customers"
  partition := 0
  offsetStart := offset
  offsetEnd := offset
  entityName := "customers"
  eventDate := Instant.epoch.date.isoformat
  schemaVersion := "cdc-bronze-v1"
  events := [deletionEvent offset]

/-- The key of the batch. -/
def deletionKey (offset : Int) : PyStr :=
  py "cdc/entity=" ++ py "customers" ++ py "/event_date=" ++ Instant.epoch.date.isoformat ++
    py "/topic=" ++ py "t.customers" ++ py "/partition=" ++ intText 0 ++ py "/offset_start=" ++
    intText offset ++ py "/offset_end=" ++ intText offset ++ py "/batch_id=" ++
    (deletionBatch offset).batchId ++ py ".parquet"

/-- The batch is archived under the key. -/
theorem deletion_archived {offset : Int} (fits : printable offset = true) :
    Archived defaultParser (deletionBatch offset) (deletionKey offset) := by
  have written : writeIdentity [0, offset] [py "t.customers"] = .ok () :=
    writeIdentity_ok.mpr ⟨by simp [fits]; decide, by decide⟩
  have read : parseDebeziumMessage defaultParser Instant.epoch Instant.epoch
      (deletionRecord offset) = .ok (.event (deletionEvent offset)) :=
    parse_ok_iff.mpr ⟨written, rfl⟩
  have identified : writeIdentity [0, offset, offset] [py "t.customers", py "cdc-bronze-v1"] =
      .ok () := writeIdentity_ok.mpr ⟨by simp [fits]; decide, by decide⟩
  have contiguous : [deletionEvent offset].map (·.kafkaOffset) =
      offsetRange (deletionEvent offset).kafkaOffset 1 := by
    simp [offsetRange]
  refine ⟨⟨[deletionEvent offset], ?_, ?_⟩, ?_⟩
  · have ordered : [deletionEvent offset].insertionSort
        (fun left right => left.kafkaOffset ≤ right.kafkaOffset) = [deletionEvent offset] := rfl
    unfold buildBatch
    rw [ordered]
    dsimp only [List.getLast?_singleton, List.length_singleton]
    rw [if_neg (not_not.mpr contiguous), if_neg (by simp), if_neg (by simp), if_neg (by simp),
      if_neg (by simp)]
    change (writeIdentity [0, offset, offset] [py "t.customers", py "cdc-bronze-v1"]).map _ = _
    rw [identified]
    rfl
  · intro event member
    rw [List.mem_singleton.mp member]
    exact ⟨_, _, _, read⟩
  · have entity : isPartitionValue (deletionBatch offset).entityName = true := rfl
    have topic : isPartitionValue (deletionBatch offset).topic = true := rfl
    unfold buildCdcObjectKey safe
    rw [if_pos entity, if_pos topic]
    rfl

/-- A bucket with the objects of two batches, the later one first. -/
def deletionBucket : BronzeBucket where
  backend := .minio 3
  objects := [⟨⟨[98], deletionKey 10⟩, [49], [97], 1, [], [], false⟩,
    ⟨⟨[98], deletionKey 9⟩, [50], [98], 1, [], [], false⟩]
  resolve := fun _ => .error ⟨.valueError, "Only s3:// or local Bronze object paths are supported"⟩
  fileDigest := fun uri => uri

/-- A request for everything. -/
def everything : DiscoverRequest where
  sourceType := .cdc

/-- The two batches are found, in order. -/
theorem deletions_replayed :
    ∃ ordered, discover deletionBucket everything = .ok (sliceTo 100 ordered) ∧
      ordered.length = 2 ∧ ordered.Pairwise (ReplayedBefore defaultParser) := by
  have all : listObjects deletionBucket (py "cdc/") = deletionBucket.objects := by decide +kernel
  have found : candidates deletionBucket everything =
      .ok (deletionBucket.objects.map (inputFromStored deletionBucket)) := by
    rw [← all]
    rfl
  have archived : ∀ item ∈ deletionBucket.objects.map (inputFromStored deletionBucket),
      isCdcKey item.objectKey = true → ∃ batch, Archived defaultParser batch item.objectKey := by
    intro item member _
    obtain ⟨stored, present, rfl⟩ := List.mem_map.mp member
    simp only [deletionBucket, List.mem_cons, List.not_mem_nil, or_false] at present
    rcases present with rfl | rfl
    · exact ⟨_, deletion_archived (by decide)⟩
    · exact ⟨_, deletion_archived (by decide)⟩
  have matching : ((deletionBucket.objects.map (inputFromStored deletionBucket)).filter
      (matchesItem everything)).length = 2 := by decide +kernel
  obtain ⟨-, -, ordered, returned, permuted, -, sorted⟩ :=
    discovery_replays rfl found archived
  exact ⟨ordered, returned, permuted.length_eq.trans matching, sorted⟩

end Silver

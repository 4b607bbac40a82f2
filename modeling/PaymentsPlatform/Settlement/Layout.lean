import PaymentsPlatform.Cdc.Keys
import PaymentsPlatform.Settlement.Ingestor

/-!
# The object layout of settlements

The keys as segments. A Bronze key determines partner, dates, checksum and file name; a
quarantine key determines partner, date, run and file name. Both are in the form
`validate_object_key` returns.
-/

namespace Settlement

open Python Effects
open Cdc (Location IsSegment)

/-- The characters of a partition value. -/
theorem isPartitionValue_plain {value : PyStr} (valid : isPartitionValue value = true) :
    47 ∉ value ∧ 92 ∉ value := by
  have visible := isName_characters valid
  constructor
  all_goals
    intro member
    have := visible _ member
    revert this
    decide

/-- The characters of a digest. -/
theorem isChecksum_plain {text : PyStr} (valid : isChecksum text = true) :
    47 ∉ text ∧ 92 ∉ text := by
  rw [isChecksum, Bool.and_eq_true, List.all_eq_true] at valid
  constructor
  all_goals
    intro member
    have := valid.2 _ member
    revert this
    decide

/-- A name that is accepted as one segment. -/
theorem safeFileName_spec {fileName name : PyStr} (safe : safeFileName fileName = .ok name) :
    name = fileName ∧ IsSegment fileName ∧ 92 ∉ fileName := by
  unfold safeFileName at safe
  split at safe
  · cases safe
  · rename_i clean
    rw [not_or, not_or, not_or] at clean
    cases safe
    exact ⟨rfl, ⟨clean.1, clean.2.1, clean.2.2.1⟩, clean.2.2.2⟩

/-- A name of one segment is accepted. -/
theorem safeFileName_accepts {fileName : PyStr} (segment : IsSegment fileName)
    (posix : 92 ∉ fileName) : safeFileName fileName = .ok fileName := by
  unfold safeFileName
  rw [if_neg]
  rintro (empty | dot | slash | backslash)
  · exact segment.filled empty
  · exact segment.named dot
  · exact segment.single slash
  · exact posix backslash

/-- The directory of a partner. -/
def partnerSegments (partnerId : PyStr) : List PyStr :=
  [py "settlements", py "partner_id=" ++ partnerId]

/-- The directory of a partner is the directory of one partner. -/
theorem partnerSegments_inj {left right : PyStr}
    (same : partnerSegments left = partnerSegments right) : left = right := by
  unfold partnerSegments at same
  have second := (List.cons.inj (List.cons.inj same).2).1
  exact List.append_cancel_left second

/-- The segments of a Bronze key. -/
def bronzeSegments (partnerId : PyStr) (settlementDate ingestionDate : Date)
    (checksumSha256 fileName : PyStr) : List PyStr :=
  partnerSegments partnerId ++ [py "settlement_date=" ++ settlementDate.isoformat,
    py "ingestion_date=" ++ ingestionDate.isoformat, py "checksum=" ++ checksumSha256, fileName]

/-- The segments of a quarantine key. -/
def quarantineSegments (partnerId : PyStr) (settlementDate : Option Date)
    (ingestionRunId fileName : PyStr) : List PyStr :=
  partnerSegments partnerId ++
    [py "settlement_date=" ++ (settlementDate.map Date.isoformat).getD "unknown",
      py "ingestion_run_id=" ++ ingestionRunId, fileName]

/-- A Bronze key, segment by segment. -/
theorem bronzeKey_segments (partnerId : PyStr) (settlementDate ingestionDate : Date)
    (checksumSha256 fileName : PyStr) :
    partnerPrefix partnerId ++ py "settlement_date=" ++ settlementDate.isoformat ++
      py "/ingestion_date=" ++ ingestionDate.isoformat ++ py "/checksum=" ++ checksumSha256 ++
      py "/" ++ fileName =
    List.intercalate [47]
      (bronzeSegments partnerId settlementDate ingestionDate checksumSha256 fileName) := by
  simp [partnerPrefix, bronzeSegments, partnerSegments, List.intercalate, List.intersperse, py,
    List.append_assoc]

/-- A quarantine key, segment by segment. -/
theorem quarantineKey_segments (partnerId : PyStr) (settlementDate : Option Date)
    (ingestionRunId fileName : PyStr) :
    partnerPrefix partnerId ++ py "settlement_date=" ++
      (settlementDate.map Date.isoformat).getD "unknown" ++
      py "/ingestion_run_id=" ++ ingestionRunId ++ py "/" ++ fileName =
    List.intercalate [47]
      (quarantineSegments partnerId settlementDate ingestionRunId fileName) := by
  simp [partnerPrefix, quarantineSegments, partnerSegments, List.intercalate, List.intersperse, py,
    List.append_assoc]

/-- A segment that `validate_object_key` accepts. -/
structure PlainSegment (part : PyStr) : Prop extends IsSegment part where
  /-- It does not leave the directory. -/
  inside : part ≠ py ".."
  /-- It has no backslash. -/
  posix : 92 ∉ part

/-- The labels of the layout, and the start of a file name. -/
def labels : List PyStr := ["settlements", "partner_id=", "settlement_date=", "ingestion_date=",
  "checksum=", "ingestion_run_id=", "settlement_"]

/-- A labelled text is a segment. -/
theorem labelled_segment {label value : PyStr} (member : label ∈ labels)
    (plain : 47 ∉ value ∧ 92 ∉ value) : PlainSegment (label ++ value) := by
  have facts : ∀ label ∈ labels, label ≠ [] ∧ label ≠ py "." ∧ 47 ∉ label ∧
      label.head? ≠ some 46 ∧ 92 ∉ label := by decide
  obtain ⟨filled, named, single, marked, posix⟩ := facts label member
  refine ⟨IsSegment.labelled ⟨filled, named, single⟩ marked plain.1, ?_, ?_⟩
  · intro dots
    obtain ⟨code, codes, text⟩ := List.exists_cons_of_ne_nil filled
    rw [text, List.cons_append] at dots
    rw [text] at marked
    exact marked (congrArg some (List.cons.inj dots).1)
  · rw [List.mem_append, not_or]
    exact ⟨posix, plain.2⟩

/-- The directory of a partner. -/
theorem partnerSegments_valid {partnerId : PyStr} (partner : isPartitionValue partnerId = true) :
    ∀ part ∈ partnerSegments partnerId, PlainSegment part := by
  intro part member
  simp only [partnerSegments, List.mem_cons, List.not_mem_nil, or_false] at member
  obtain rfl | rfl := member
  · exact ⟨⟨by decide, by decide, by decide⟩, by decide, by decide⟩
  · exact labelled_segment (by simp [labels]) (isPartitionValue_plain partner)

/-- The segments of a Bronze key. -/
theorem bronzeSegments_valid {partnerId checksumSha256 fileName : PyStr}
    (settlementDate ingestionDate : Date) (partner : isPartitionValue partnerId = true)
    (digest : isChecksum checksumSha256 = true) :
    ∀ part ∈ bronzeSegments partnerId settlementDate ingestionDate checksumSha256 fileName,
      part = fileName ∨ PlainSegment part := by
  intro part member
  simp only [bronzeSegments, List.mem_append, List.mem_cons, List.not_mem_nil, or_false] at member
  rcases member with directory | rfl | rfl | rfl | rfl
  · exact Or.inr (partnerSegments_valid partner part directory)
  · exact Or.inr (labelled_segment (by simp [labels]) (isoformat_plain settlementDate))
  · exact Or.inr (labelled_segment (by simp [labels]) (isoformat_plain ingestionDate))
  · exact Or.inr (labelled_segment (by simp [labels]) (isChecksum_plain digest))
  · exact Or.inl rfl

/-- The segments of a quarantine key. -/
theorem quarantineSegments_valid {partnerId ingestionRunId fileName : PyStr}
    (settlementDate : Option Date) (partner : isPartitionValue partnerId = true)
    (run : isPartitionValue ingestionRunId = true) :
    ∀ part ∈ quarantineSegments partnerId settlementDate ingestionRunId fileName,
      part = fileName ∨ PlainSegment part := by
  intro part member
  simp only [quarantineSegments, List.mem_append, List.mem_cons, List.not_mem_nil,
    or_false] at member
  rcases member with directory | rfl | rfl | rfl
  · exact Or.inr (partnerSegments_valid partner part directory)
  · refine Or.inr (labelled_segment (by simp [labels]) ?_)
    cases settlementDate with
    | none => exact ⟨by decide, by decide⟩
    | some date => exact isoformat_plain date
  · exact Or.inr (labelled_segment (by simp [labels]) (isPartitionValue_plain run))
  · exact Or.inl rfl

/-- A partner of `settlement-v1` can be part of a key. -/
theorem isPartnerId_partition {partner : PyStr} (valid : isPartnerId partner = true) :
    isPartitionValue partner = true := by
  cases partner with
  | nil => cases valid
  | cons first rest =>
    simp only [isPartnerId, Bool.and_eq_true, decide_eq_true_eq, List.all_eq_true,
      Bool.or_eq_true] at valid
    obtain ⟨⟨⟨upper, -⟩, short⟩, others⟩ := valid
    have letter : ∀ code, isUpper code = true ∨ Json.isDigit code = true →
        isAlphanumeric code = true := by
      intro code kind
      simp only [isUpper, Json.isDigit, isAlphanumeric, Bool.and_eq_true, Bool.or_eq_true,
        decide_eq_true_eq] at kind ⊢
      omega
    simp only [isPartitionValue, isName, Bool.and_eq_true, decide_eq_true_eq, List.all_eq_true,
      Bool.or_eq_true]
    refine ⟨⟨letter first (Or.inl upper), by omega⟩, fun code member => ?_⟩
    exact Or.inl (Or.inl (Or.inl (letter code (others code member))))

/-- A digit is neither a separator nor a blank. -/
theorem isAnyDigit_visible {code : Nat} (digit : isAnyDigit code = true) :
    isWhitespace code = false ∧ code ≠ 47 ∧ code ≠ 92 := by
  refine ⟨?_, ?_, ?_⟩
  · by_contra space
    rw [Bool.not_eq_false] at space
    have blanks : ∀ code ∈ List.range' 9 5 ++ List.range' 28 5 ++ List.range' 8192 11 ++
        [133, 160, 5760, 8232, 8233, 8239, 8287, 12288], isAnyDigit code = false := by decide
    have none := blanks code (by
      simp only [isWhitespace, Bool.or_eq_true, Bool.and_eq_true, decide_eq_true_eq] at space
      simp only [List.mem_append, List.mem_range'_1, List.mem_cons, List.not_mem_nil, or_false]
      omega)
    rw [none] at digit
    cases digit
  all_goals
    rintro rfl
    revert digit
    decide

/-- What a name of `settlement-v1` is made of. -/
theorem settlementName_spec {name partner date sequence : PyStr}
    (matched : settlementName name = some (partner, date, sequence)) :
    isPartnerId partner = true ∧ isDateText date = true ∧ sequence.length = 3 ∧
      (∀ code ∈ sequence, isAnyDigit code = true) ∧
      name = py "settlement_" ++ (partner ++ 95 :: (date ++ 95 :: (sequence ++ py ".csv"))) := by
  unfold settlementName at matched
  obtain ⟨rest, dropped, matched⟩ := Option.bind_eq_some_iff.mp matched
  split at matched
  · rename_i partner' date' last parts
    dsimp only at matched
    split at matched
    · rename_i checked
      obtain ⟨rfl, rfl, rfl⟩ := Prod.mk.inj (Option.some.inj matched) |>.imp_right Prod.mk.inj
      simp only [Bool.and_eq_true, decide_eq_true_eq, List.all_eq_true] at checked
      obtain ⟨⟨⟨⟨known, dated⟩, csv⟩, three⟩, digits⟩ := checked
      refine ⟨known, dated, three, digits, ?_⟩
      rw [dropStart_eq_some.mp dropped, ← intercalate_splitChar 95 rest, parts,
        intercalate_cons (List.cons_ne_nil _ _), intercalate_cons (List.cons_ne_nil _ _),
        ← csv, List.take_append_drop]
      simp [List.intercalate]
    · cases matched
  · cases matched

/-- The characters of a name. -/
def isNameCharacter (code : Nat) : Bool :=
  isAlphanumeric code || isAnyDigit code || code = 45 || code = 46 || code = 95

/-- They are neither separators nor blanks. -/
theorem isNameCharacter_visible {code : Nat} (valid : isNameCharacter code = true) :
    isWhitespace code = false ∧ code ≠ 47 ∧ code ≠ 92 := by
  simp only [isNameCharacter, Bool.or_eq_true, decide_eq_true_eq] at valid
  rcases valid with (((letter | digit) | rfl) | rfl) | rfl
  · simp only [isAlphanumeric, Bool.or_eq_true, Bool.and_eq_true, decide_eq_true_eq] at letter
    refine ⟨?_, by omega, by omega⟩
    simp only [isWhitespace, Bool.or_eq_false_iff, Bool.and_eq_false_iff, decide_eq_false_iff_not]
    omega
  · exact isAnyDigit_visible digit
  · decide
  · decide
  · decide

/-- The characters of a date text. -/
theorem isDateText_characters {text : PyStr} (date : isDateText text = true) :
    text.length = 10 ∧ ∀ code ∈ text, isNameCharacter code = true := by
  unfold isDateText at date
  split at date
  · rename_i a b c d e f g h
    rw [List.all_eq_true] at date
    refine ⟨rfl, fun code member => ?_⟩
    by_cases dash : code = 45
    · rw [dash]
      decide
    · have digit := date code (by simpa [dash] using member)
      simp [isNameCharacter, digit]
  · cases date

/-- The characters of a partner. -/
theorem isPartnerId_characters {text : PyStr} (partner : isPartnerId text = true) :
    text.length ≤ 16 ∧ ∀ code ∈ text, isNameCharacter code = true := by
  have letter : ∀ code, isUpper code = true ∨ Json.isDigit code = true →
      isNameCharacter code = true := by
    intro code kind
    have known : isAlphanumeric code = true := by
      simp only [isUpper, Json.isDigit, isAlphanumeric, Bool.and_eq_true, Bool.or_eq_true,
        decide_eq_true_eq] at kind ⊢
      omega
    simp [isNameCharacter, known]
  cases text with
  | nil => cases partner
  | cons first rest =>
    simp only [isPartnerId, Bool.and_eq_true, decide_eq_true_eq, List.all_eq_true,
      Bool.or_eq_true] at partner
    obtain ⟨⟨⟨upper, -⟩, short⟩, others⟩ := partner
    refine ⟨by rw [List.length_cons]; omega, fun code member => ?_⟩
    rcases List.mem_cons.mp member with rfl | later
    · exact letter code (Or.inl upper)
    · exact letter code (others code later)

/-- A name is short and has only such characters. -/
theorem settlementName_characters {name partner date sequence : PyStr}
    (matched : settlementName name = some (partner, date, sequence)) :
    name.length ≤ 1024 ∧ ∀ code ∈ name, isNameCharacter code = true := by
  obtain ⟨known, dated, three, digits, rfl⟩ := settlementName_spec matched
  obtain ⟨most, partners⟩ := isPartnerId_characters known
  obtain ⟨ten, dates⟩ := isDateText_characters dated
  have start : ∀ code ∈ py "settlement_", isNameCharacter code = true := by decide
  have ending : ∀ code ∈ py ".csv", isNameCharacter code = true := by decide
  have sizes : (py "settlement_").length = 11 ∧ (py ".csv").length = 4 := by decide
  constructor
  · simp only [List.length_append, List.length_cons, ten, three, sizes]
    omega
  · intro code member
    simp only [List.mem_append, List.mem_cons] at member
    rcases member with first | second | rfl | third | rfl | fourth | last
    · exact start code first
    · exact partners code second
    · decide
    · exact dates code third
    · decide
    · simp [isNameCharacter, digits code fourth]
    · exact ending code last

/-- A name of `settlement-v1`: its partner can be part of a key, and it is one segment, also with
the ending of a listing. -/
theorem settlementName_segment {name partner date sequence : PyStr}
    (matched : settlementName name = some (partner, date, sequence)) :
    isPartitionValue partner = true ∧ ∀ ending : PyStr, 47 ∉ ending → 92 ∉ ending →
      PlainSegment (name ++ ending) := by
  obtain ⟨known, -, -, -, text⟩ := settlementName_spec matched
  obtain ⟨-, characters⟩ := settlementName_characters matched
  refine ⟨isPartnerId_partition known, fun ending slash backslash => ?_⟩
  have plain : ∀ code ∈ name, code ≠ 47 ∧ code ≠ 92 := fun code member =>
    (isNameCharacter_visible (characters code member)).2
  rw [text] at plain ⊢
  rw [List.append_assoc]
  refine labelled_segment (by simp [labels]) ⟨fun member => ?_, fun member => ?_⟩
  · rcases List.mem_append.mp member with inside | after
    · exact (plain 47 (List.mem_append_right _ inside)).1 rfl
    · exact slash after
  · rcases List.mem_append.mp member with inside | after
    · exact (plain 92 (List.mem_append_right _ inside)).2 rfl
    · exact backslash after

/-- A name that `settlement-v1` accepts: its partner can be part of a key, and it is one segment,
also with an ending. -/
theorem parsed_segments {deployment : Deployment} {expected name : PyStr}
    {filename : FilenameMetadata} (v1 : deployment.contract = settlementV1)
    (parsed : parseSettlementFilename deployment.contract expected name = .ok filename) :
    isPartitionValue filename.partnerId = true ∧ ∀ ending : PyStr, 47 ∉ ending → 92 ∉ ending →
      PlainSegment (name ++ ending) := by
  obtain ⟨-, -, -, -, dateText, sequenceText, matched, -⟩ :=
    parseSettlementFilename_ok_iff.mp parsed
  rw [v1] at matched
  exact settlementName_segment matched

/-- A Bronze key names its partner and its file. -/
theorem bronzeSegments_inj {partnerId partnerId' checksum checksum' fileName fileName' : PyStr}
    {settlementDate settlementDate' ingestionDate ingestionDate' : Date}
    (same : bronzeSegments partnerId settlementDate ingestionDate checksum fileName =
      bronzeSegments partnerId' settlementDate' ingestionDate' checksum' fileName') :
    partnerId = partnerId' ∧ fileName = fileName' := by
  simp only [bronzeSegments, partnerSegments, List.cons_append, List.nil_append, List.cons.injEq,
    List.append_cancel_left_eq] at same
  exact ⟨same.2.1, same.2.2.2.2.2.1⟩

/-- What a Bronze key is built from. -/
theorem buildBronzeObjectKey_spec {partnerId checksumSha256 fileName key : PyStr}
    {settlementDate ingestionDate : Date}
    (built : buildBronzeObjectKey partnerId settlementDate ingestionDate checksumSha256 fileName =
      .ok key) :
    isPartitionValue partnerId = true ∧ isChecksum checksumSha256 = true ∧
      IsSegment fileName ∧ key = List.intercalate [47]
        (bronzeSegments partnerId settlementDate ingestionDate checksumSha256 fileName) := by
  unfold buildBronzeObjectKey validatePartitionValue at built
  by_cases partner : isPartitionValue partnerId = true
  · by_cases digest : isChecksum checksumSha256 = true
    · cases safe : safeFileName fileName with
      | error problem =>
        simp only [if_pos partner, if_pos digest, safe, bind, Except.bind] at built
        cases built
      | ok name =>
        obtain ⟨rfl, segment, -⟩ := safeFileName_spec safe
        simp only [if_pos partner, if_pos digest, safe, bind, Except.bind, pure, Except.pure,
          Except.ok.injEq] at built
        exact ⟨partner, digest, segment, built ▸ bronzeKey_segments ..⟩
    · simp only [if_pos partner, if_neg digest, bind, Except.bind] at built
      cases built
  · simp only [if_neg partner, bind, Except.bind] at built
    cases built

/-- What a quarantine key is built from. -/
theorem buildQuarantineObjectKey_spec {partnerId ingestionRunId fileName key : PyStr}
    {settlementDate : Option Date}
    (built : buildQuarantineObjectKey partnerId settlementDate ingestionRunId fileName =
      .ok key) :
    isPartitionValue partnerId = true ∧ isPartitionValue ingestionRunId = true ∧
      IsSegment fileName ∧ key = List.intercalate [47]
        (quarantineSegments partnerId settlementDate ingestionRunId fileName) := by
  unfold buildQuarantineObjectKey validatePartitionValue at built
  by_cases partner : isPartitionValue partnerId = true
  · by_cases run : isPartitionValue ingestionRunId = true
    · cases safe : safeFileName fileName with
      | error problem =>
        simp only [if_pos partner, if_pos run, safe, bind, Except.bind] at built
        cases built
      | ok name =>
        obtain ⟨rfl, segment, -⟩ := safeFileName_spec safe
        simp only [if_pos partner, if_pos run, safe, bind, Except.bind, pure, Except.pure,
          Except.ok.injEq] at built
        exact ⟨partner, run, segment, built ▸ quarantineKey_segments ..⟩
    · simp only [if_pos partner, if_neg run, bind, Except.bind] at built
      cases built
  · simp only [if_neg partner, bind, Except.bind] at built
    cases built

/-- The key of a place whose segments are known. -/
theorem located_segments {deployment : Deployment} {bucket : PyStr} {parts : List PyStr}
    {place : Location × PyStr} (some_part : parts ≠ [])
    (segments : ∀ part ∈ parts, IsSegment part)
    (located : deployment.backend.locate bucket (List.intercalate [47] parts) = .ok place) :
    place.1.bucket = bucket ∧ splitChar 47 place.1.key = parts := by
  obtain ⟨valid, normalized, where'⟩ := Cdc.Backend.locate_spec located
  rw [where', Cdc.validateObjectKey_segments some_part segments normalized]
  exact ⟨rfl, splitChar_intercalate some_part fun part member => (segments part member).single⟩

/-- The place of a Bronze object. -/
theorem bronzePlace {deployment : Deployment} {bucket partnerId checksumSha256 fileName key : PyStr}
    {settlementDate ingestionDate : Date} {place : Location × PyStr}
    (built : buildBronzeObjectKey partnerId settlementDate ingestionDate checksumSha256 fileName =
      .ok key) (located : deployment.backend.locate bucket key = .ok place) :
    place.1.bucket = bucket ∧ splitChar 47 place.1.key =
      bronzeSegments partnerId settlementDate ingestionDate checksumSha256 fileName := by
  obtain ⟨partner, digest, named, rfl⟩ := buildBronzeObjectKey_spec built
  refine located_segments (by simp [bronzeSegments]) ?_ located
  intro part member
  obtain rfl | segment := bronzeSegments_valid settlementDate ingestionDate partner digest
    part member
  · exact named
  · exact segment.toIsSegment

/-- The place of a quarantine object. -/
theorem quarantinePlace {deployment : Deployment} {bucket partnerId ingestionRunId fileName key :
    PyStr} {settlementDate : Option Date} {place : Location × PyStr}
    (built : buildQuarantineObjectKey partnerId settlementDate ingestionRunId fileName = .ok key)
    (located : deployment.backend.locate bucket key = .ok place) :
    place.1.bucket = bucket ∧ splitChar 47 place.1.key =
      quarantineSegments partnerId settlementDate ingestionRunId fileName := by
  obtain ⟨partner, run, named, rfl⟩ := buildQuarantineObjectKey_spec built
  refine located_segments (by simp [quarantineSegments]) ?_ located
  intro part member
  obtain rfl | segment := quarantineSegments_valid settlementDate partner run part member
  · exact named
  · exact segment.toIsSegment

end Settlement

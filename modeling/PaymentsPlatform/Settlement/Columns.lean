import PaymentsPlatform.Settlement.Acceptance
import PaymentsPlatform.Python.Path

/-!
# The number of cells of a row

`validate_settlement_file` compares the header with the contract but not the number of cells of a
row. `DictReader` leaves the columns of a short row without a value and keeps the surplus of a long
row under a key that nothing reads, so that a row is judged by its first eleven cells.
-/

namespace Settlement

open Python

/-! ## The codes of the issues -/

/-- The codes that `_validate_row` gives. -/
def rowCodes : List PyStr :=
  [py "REQUIRED_FIELD_MISSING", py "REQUIRED_FIELD_EMPTY", py "MAX_LENGTH_EXCEEDED",
    py "INVALID_PARTNER_ID", py "PARTNER_MISMATCH", py "INVALID_SETTLEMENT_DATE",
    py "SETTLEMENT_DATE_MISMATCH", py "INVALID_INTERNAL_TRANSACTION_ID",
    py "INVALID_TRANSACTION_TIMESTAMP", py "TIMESTAMP_TIMEZONE_REQUIRED", py "INVALID_DECIMAL",
    py "DECIMAL_SCALE_EXCEEDED", py "DECIMAL_PRECISION_EXCEEDED", py "AMOUNT_NOT_POSITIVE",
    py "INVALID_CURRENCY", py "INVALID_SETTLEMENT_STATUS", py "NEGATIVE_FEE_AMOUNT",
    py "NET_AMOUNT_INCONSISTENT"]

/-- Every issue has a code of the row. -/
def RowCoded (issues : List ValidationIssue) : Prop := ∀ issue ∈ issues, issue.code ∈ rowCodes

/-- No issue has no code to give. -/
theorem RowCoded.nil : RowCoded [] := by
  intro issue member
  cases member

/-- One issue with a code of the row. -/
theorem RowCoded.one {code message : PyStr} (known : code ∈ rowCodes) :
    RowCoded [⟨code, message⟩] := by
  intro issue member
  rw [List.mem_singleton.mp member]
  exact known

/-- The issues of two checks. -/
theorem RowCoded.append {left right : List ValidationIssue} (first : RowCoded left)
    (second : RowCoded right) : RowCoded (left ++ right) := by
  intro issue member
  rcases List.mem_append.mp member with here | there
  · exact first issue here
  · exact second issue there

/-- A check with a code of the row. -/
theorem RowCoded.issueIf {condition : Prop} [Decidable condition] {code message : PyStr}
    (known : code ∈ rowCodes) : RowCoded (issueIf condition code message) := by
  unfold Settlement.issueIf
  split
  · exact RowCoded.one known
  · exact RowCoded.nil

/-- The codes of the checks of one field. -/
theorem fieldIssues_coded (raw : RawRecord) (field : FieldContract) :
    RowCoded (fieldIssues raw field) := by
  unfold fieldIssues
  split
  · split
    · exact RowCoded.one (by decide)
    · exact RowCoded.nil
  · exact RowCoded.append (RowCoded.issueIf (by decide)) (RowCoded.issueIf (by decide))

/-- The codes of a date. -/
theorem parseDate_coded (text : PyStr) : RowCoded (parseDate text).2 := by
  unfold parseDate
  split
  · exact RowCoded.nil
  · split
    · exact RowCoded.nil
    · exact RowCoded.one (by decide)

/-- The codes of a UUID. -/
theorem parseOptionalUuid_coded (text : PyStr) : RowCoded (parseOptionalUuid text).2 := by
  unfold parseOptionalUuid
  split
  · exact RowCoded.nil
  · split
    · exact RowCoded.nil
    · exact RowCoded.one (by decide)

/-- The codes of a time. -/
theorem parseTimestampText_coded {text : PyStr} {reading : Option Instant × List ValidationIssue}
    (read : parseTimestampText text = .ok reading) : RowCoded reading.2 := by
  unfold parseTimestampText at read
  split at read
  · rw [← Except.ok.inj read]
    exact RowCoded.nil
  · split at read
    · rw [← Except.ok.inj read]
      exact RowCoded.one (by decide)
    · rw [← Except.ok.inj read]
      exact RowCoded.one (by decide)
    · obtain ⟨instant, -, same⟩ := map_eq_ok.mp read
      rw [← same]
      exact RowCoded.nil

/-- The codes of an amount. -/
theorem parseAmount_coded {text : PyStr} {field : FieldContract}
    {reading : Option Decimal × List ValidationIssue}
    (read : parseAmount text field = .ok reading) : RowCoded reading.2 := by
  unfold parseAmount at read
  split at read
  · rw [← Except.ok.inj read]
    exact RowCoded.nil
  · split at read
    · rw [← Except.ok.inj read]
      exact RowCoded.one (by decide)
    · dsimp only at read
      split at read
      · rw [← Except.ok.inj read]
        exact RowCoded.one (by decide)
      · split at read
        · rw [← Except.ok.inj read]
          exact RowCoded.one (by decide)
        · split at read
          · rw [← Except.ok.inj read]
            exact RowCoded.nil
          · cases read
    · rw [← Except.ok.inj read]
      exact RowCoded.one (by decide)

/-- The codes of the comparison of the amounts. -/
theorem netIssues_coded {amount fee net : Option Decimal} {issues : List ValidationIssue}
    (compared : netIssues amount fee net = .ok issues) : RowCoded issues := by
  unfold netIssues at compared
  split at compared
  · split at compared
    · cases compared
    · rw [← Except.ok.inj compared]
      exact RowCoded.issueIf (by decide)
  · rw [← Except.ok.inj compared]
    exact RowCoded.nil

/-- The codes of a row. -/
theorem rowIssues_coded {contract : SettlementContract} (filename : FilenameMetadata)
    {raw : RawRecord} {readings : Readings} (read : ReadingsOf contract raw readings) :
    RowCoded (rowIssues contract filename raw readings) := by
  have fields : RowCoded (contract.fields.flatMap (fieldIssues raw)) := by
    intro issue member
    obtain ⟨field, -, inside⟩ := List.mem_flatMap.mp member
    exact fieldIssues_coded raw field issue inside
  have date : RowCoded readings.date.2 := by
    rw [read.date]
    exact parseDate_coded _
  have internal : RowCoded readings.internal.2 := by
    rw [read.internal]
    exact parseOptionalUuid_coded _
  refine .append (.append (.append (.append (.append (.append (.append (.append (.append (.append
    (.append (.append (.append (.append fields (.issueIf ?_)) (.issueIf ?_)) date) (.issueIf ?_))
    internal) (parseTimestampText_coded read.time)) (parseAmount_coded read.amount)) (.issueIf ?_))
    (.issueIf ?_)) (.issueIf ?_)) (parseAmount_coded read.fee)) (.issueIf ?_))
    (parseAmount_coded read.net)) (netIssues_coded read.consistency)
  all_goals decide

/-- `_validate_row` gives codes of the row only. -/
theorem validateRow_coded {contract : SettlementContract} {filename : FilenameMetadata}
    {raw : RawRecord} {rowNumber : Nat} {row : Option SettlementRecord × List ValidationIssue}
    (returned : validateRow contract filename raw rowNumber = .ok row) : RowCoded row.2 := by
  rw [validateRow_eq] at returned
  obtain ⟨readings, read, same⟩ := map_eq_ok.mp returned
  rw [← same]
  exact rowIssues_coded filename (readRow_readings read)

/-! ## Rows reported as duplicates -/

/-- A rejection reports a code. -/
def RejectedRecord.Reports (rejection : RejectedRecord) (code : PyStr) : Prop :=
  code ∈ splitChar 124 rejection.errorCode

/-- The codes of a rejection are those of its issues. -/
theorem rejectRow_reports {context : RejectionContext} {raw : RawRecord} {rowNumber : Nat}
    {issues : List ValidationIssue} (some_issue : issues ≠ [])
    (plain : ∀ issue ∈ issues, 124 ∉ issue.code) (code : PyStr) :
    (rejectRow context raw rowNumber issues).Reports code ↔
      ∃ issue ∈ issues, issue.code = code := by
  have filled : (issues.map (·.code)).eraseDups ≠ [] := by
    obtain ⟨first, rest, rfl⟩ := List.exists_cons_of_ne_nil some_issue
    rw [List.map_cons, List.eraseDups_cons]
    exact List.cons_ne_nil _ _
  have parts : splitChar 124 (List.intercalate [124] (issues.map (·.code)).eraseDups) =
      (issues.map (·.code)).eraseDups := by
    refine splitChar_intercalate filled fun part member => ?_
    obtain ⟨issue, inside, rfl⟩ := List.mem_map.mp (List.mem_eraseDups.mp member)
    exact plain issue inside
  change code ∈ splitChar 124 (List.intercalate [124] (issues.map (·.code)).eraseDups) ↔ _
  rw [parts, List.mem_eraseDups, List.mem_map]

/-- The codes that an earlier row causes. -/
theorem seen_issues_code {seen : SeenRows} {raw : RawRecord} {issue : ValidationIssue}
    (member : issue ∈ seen.issues raw) :
    (issue.code = py "DUPLICATE_ROW" ∧ raw.map Prod.snd ∈ seen.rows) ∨
      issue.code = py "DUPLICATE_SETTLEMENT_REFERENCE" := by
  unfold SeenRows.issues issueIf at member
  rcases List.mem_append.mp member with same | reference
  · split at same
    · rename_i duplicate
      rw [List.mem_singleton.mp same]
      exact Or.inl ⟨rfl, duplicate⟩
    · cases same
  · split at reference
    · rw [List.mem_singleton.mp reference]
      exact Or.inr rfl
    · cases reference

/-- A row is reported as a duplicate exactly when an earlier row has the same cells. -/
theorem duplicate_reported_iff {contract : SettlementContract} {filename : FilenameMetadata}
    {context : RejectionContext} {rowNumber : Nat} {earlier : List RawRecord} {raw : RawRecord}
    {rejection : RejectedRecord}
    (judged : judge contract filename context rowNumber (SeenRows.after {} earlier) raw =
      .ok (.rejected rejection)) :
    rejection.Reports (py "DUPLICATE_ROW") ↔ CellsSeen earlier raw := by
  obtain ⟨⟨record, recordIssues⟩, returned, same⟩ := map_eq_ok.mp judged
  have coded : RowCoded recordIssues := validateRow_coded returned
  have rowPlain : ∀ code ∈ rowCodes, 124 ∉ code ∧ code ≠ py "DUPLICATE_ROW" := by decide
  dsimp only at same
  split at same
  · rename_i some_issue
    rw [← RowVerdict.rejected.inj same, rejectRow_reports some_issue]
    · rw [← (after_issues earlier raw).1]
      constructor
      · rintro ⟨issue, member, named⟩
        rcases List.mem_append.mp member with seen | own
        · rcases seen_issues_code seen with ⟨-, duplicate⟩ | reference
          · exact duplicate
          · rw [named] at reference
            cases reference
        · exact absurd named (rowPlain _ (coded issue own)).2
      · intro duplicate
        refine ⟨⟨"DUPLICATE_ROW", "Identical row already appeared in file"⟩, ?_, rfl⟩
        unfold SeenRows.issues issueIf
        simp only [duplicate, if_true]
        exact List.mem_cons_self ..
    · intro issue member
      rcases List.mem_append.mp member with seen | own
      · rcases seen_issues_code seen with ⟨named, -⟩ | named
        · rw [named]
          decide
        · rw [named]
          decide
      · exact (rowPlain _ (coded issue own)).1
  · cases record <;> cases same

/-! ## The cells of a row -/

/-- The cells of the data rows of a file; a file with a file issue is refused as a whole and none
of its rows is judged. -/
def dataCells (contract : SettlementContract) (data : Bytes) : List (List PyStr) :=
  match contract.decode data with
  | none => []
  | some text =>
    match csvFirst contract.delimiter {} (splitLines text) with
    | .ok (some header, lines) =>
      if header ≠ contract.fieldNames then []
      else match csvRecords contract.delimiter {} lines with
        | .error _ => []
        | .ok records => records.filter fun cells => cells ≠ []
    | _ => []

/-- The rows that are judged are the cells of the data rows under the names of the contract. -/
theorem dataRows_cells (contract : SettlementContract) (data : Bytes) :
    (dataRows contract data).getD [] = (dataCells contract data).map (rawRecord contract) := by
  unfold dataRows dataCells
  cases contract.decode data with
  | none => rfl
  | some text =>
  dsimp only
  cases csvFirst contract.delimiter {} (splitLines text) with
  | error problem => rfl
  | ok read =>
  obtain ⟨header, lines⟩ := read
  cases header with
  | none => rfl
  | some header =>
  dsimp only
  by_cases other : header ≠ contract.fieldNames
  · rw [if_pos other, if_pos other]
    rfl
  · rw [if_neg other, if_neg other]
    cases csvRecords contract.delimiter {} lines with
    | error problem => rfl
    | ok records =>
    dsimp only
    split
    · rename_i blank
      exact blank.symm
    · rfl

/-- The values of a row are its first cells. -/
theorem rawRecord_values (contract : SettlementContract) (cells : List PyStr) :
    (rawRecord contract cells).map Prod.snd =
      (List.range contract.fieldNames.length).map fun index => cells[index]? := by
  refine List.ext_getElem? fun index => ?_
  unfold rawRecord
  rw [List.map_map, List.getElem?_map, List.getElem?_zipIdx, List.getElem?_map]
  by_cases inside : index < contract.fieldNames.length
  · rw [List.getElem?_eq_getElem inside, List.getElem?_range inside]
    simp
  · rw [List.getElem?_eq_none (by omega), List.getElem?_eq_none (by simpa using inside)]
    rfl

/-- Two lists have the same first cells when they agree at every place among them. -/
theorem take_eq_iff {α : Type} (left right : List α) (count : Nat) :
    ((List.range count).map fun index => left[index]?) =
        ((List.range count).map fun index => right[index]?) ↔
      left.take count = right.take count := by
  rw [List.map_inj_left, List.ext_getElem?_iff]
  refine forall_congr' fun index => ?_
  rw [List.mem_range, List.getElem?_take, List.getElem?_take]
  by_cases inside : index < count
  · rw [if_pos inside, if_pos inside]
    exact ⟨fun same => same inside, fun same _ => same⟩
  · rw [if_neg inside, if_neg inside]
    exact ⟨fun _ => rfl, fun _ less => absurd less inside⟩

/-- Two rows have the same values exactly when their first eleven cells are the same. -/
theorem rawRecord_values_eq_iff (cells other : List PyStr) :
    (rawRecord settlementV1 other).map Prod.snd = (rawRecord settlementV1 cells).map Prod.snd ↔
      other.take 11 = cells.take 11 := by
  rw [rawRecord_values, rawRecord_values]
  exact take_eq_iff other cells 11

/-- An earlier row has the values of a row exactly when it has its first eleven cells. -/
theorem cellsSeen_iff (earlier : List (List PyStr)) (cells : List PyStr) :
    CellsSeen (earlier.map (rawRecord settlementV1)) (rawRecord settlementV1 cells) ↔
      ∃ other ∈ earlier, other.take 11 = cells.take 11 := by
  unfold CellsSeen
  simp only [List.mem_map, exists_exists_and_eq_and, rawRecord_values_eq_iff]

/-- A row whose eleven values are there has at least eleven cells. -/
theorem Acceptable.cells {filename : FilenameMetadata} {earlier : List RawRecord}
    {cells : List PyStr} (acceptable : Acceptable filename earlier (rawRecord settlementV1 cells)) :
    11 ≤ cells.length := by
  have last : (rawRecord settlementV1 cells).get (py "net_amount") = cells[10]? := by rfl
  have present := acceptable.present (py "net_amount") (by decide)
  rw [last] at present
  have inside : 10 < cells.length := by simpa using present
  exact inside

/-! ## Files -/

/-- What becomes of the rows of a file, in terms of their cells. -/
structure RowFates (filename : FilenameMetadata) (result : FileValidationResult)
    (rows : List (List PyStr)) : Prop where
  /-- An accepted record has a row. -/
  origin : ∀ record ∈ result.acceptedRecords, ∃ index cells,
    record.sourceRowNumber = 2 + index ∧ rows[index]? = some cells
  /-- A row is accepted when its first eleven cells are acceptable. -/
  accepted : ∀ index cells, rows[index]? = some cells →
    ((∃ record ∈ result.acceptedRecords, record.sourceRowNumber = 2 + index) ↔
      Acceptable filename ((rows.take index).map (rawRecord settlementV1))
        (rawRecord settlementV1 cells))
  /-- A row is rejected when they are not. -/
  rejected : ∀ index cells, rows[index]? = some cells →
    ((∃ rejection ∈ result.rejectedRecords, rejection.sourceRowNumber = 2 + index) ↔
      ¬ Acceptable filename ((rows.take index).map (rawRecord settlementV1))
        (rawRecord settlementV1 cells))
  /-- A rejected row is reported as a duplicate when an earlier row has its first eleven cells. -/
  duplicate : ∀ index cells, rows[index]? = some cells → ∀ rejection ∈ result.rejectedRecords,
    rejection.sourceRowNumber = 2 + index → (rejection.Reports (py "DUPLICATE_ROW") ↔
      ∃ other ∈ rows.take index, other.take 11 = cells.take 11)

/-- The rows of a judged file. -/
theorem verdicts_rowFates {expected name : PyStr} {filename : FilenameMetadata}
    (named : parseSettlementFilename settlementV1 expected name = .ok filename)
    {context : RejectionContext} {rows : List (List PyStr)} {list : List RowVerdict} {count : Nat}
    (judged : verdicts settlementV1 filename context 2 {} (rows.map (rawRecord settlementV1)) =
      .ok list) :
    RowFates filename ⟨[], list.filterMap RowVerdict.record?,
      list.filterMap RowVerdict.rejection?, count⟩ rows := by
  have readable := (verdicts_ok_iff settlementV1 filename context 2 {} _).mp ⟨list, judged⟩
  -- the verdict on a row, and what it means for its cells
  have verdict : ∀ index cells, rows[index]? = some cells → ∃ verdict,
      list[index]? = some verdict ∧
      judge settlementV1 filename context (2 + index)
        (SeenRows.after {} ((rows.take index).map (rawRecord settlementV1)))
        (rawRecord settlementV1 cells) = .ok verdict ∧
      (Acceptable filename ((rows.take index).map (rawRecord settlementV1))
        (rawRecord settlementV1 cells) ↔ ∃ record, verdict = .accepted record) := by
    intro index cells found
    have row : (rows.map (rawRecord settlementV1))[index]? = some (rawRecord settlementV1 cells) :=
      by rw [List.getElem?_map, found]; rfl
    obtain ⟨verdict, own, decided⟩ :=
      (verdicts_get settlementV1 filename context judged).2 index _ row
    rw [← List.map_take] at decided
    have meaning := judge_means decided
    refine ⟨verdict, own, decided, ?_⟩
    rw [acceptable_iff named (readable _ (List.mem_of_getElem? row))]
    cases verdict with
    | accepted record => exact ⟨fun _ => ⟨record, rfl⟩, fun _ => ⟨meaning.1, meaning.2.1,
        meaning.2.2.1⟩⟩
    | rejected rejection =>
      constructor
      · rintro ⟨fresh, follows, -⟩
        exact absurd ⟨fresh, follows⟩ meaning.1
      · rintro ⟨record, same⟩
        cases same
    | dropped => exact absurd (List.mem_of_getElem? own) (not_dropped judged)
  constructor
  · intro record member
    obtain ⟨index, raw, row, -, -, recordOf⟩ := accepted_row judged member
    rw [List.getElem?_map] at row
    obtain ⟨cells, found, -⟩ := Option.map_eq_some_iff.mp row
    exact ⟨index, cells, recordOf.row, found⟩
  · intro index cells found
    obtain ⟨verdict, own, -, acceptable⟩ := verdict index cells found
    rw [acceptable]
    constructor
    · rintro ⟨record, member, number⟩
      have accepted := (accepted_iff_verdict judged record index).mp ⟨member, number⟩
      exact ⟨record, Option.some.inj (own.symm.trans accepted)⟩
    · rintro ⟨record, rfl⟩
      obtain ⟨member, number⟩ := (accepted_iff_verdict judged record index).mpr own
      exact ⟨record, member, number⟩
  · intro index cells found
    obtain ⟨verdict, own, -, acceptable⟩ := verdict index cells found
    rw [acceptable]
    constructor
    · rintro ⟨rejection, member, number⟩ ⟨record, rfl⟩
      have rejected := (rejected_iff_verdict judged rejection index).mp ⟨member, number⟩
      cases own.symm.trans rejected
    · intro refused
      cases verdict with
      | accepted record => exact absurd ⟨record, rfl⟩ refused
      | rejected rejection =>
        obtain ⟨member, number⟩ := (rejected_iff_verdict judged rejection index).mpr own
        exact ⟨rejection, member, number⟩
      | dropped => exact absurd (List.mem_of_getElem? own) (not_dropped judged)
  · intro index cells found rejection member number
    obtain ⟨verdict, own, decided, -⟩ := verdict index cells found
    have rejected := (rejected_iff_verdict judged rejection index).mp ⟨member, number⟩
    obtain rfl := Option.some.inj (own.symm.trans rejected)
    rw [duplicate_reported_iff decided, cellsSeen_iff]

/-- The rows of a file on which validation returns. -/
theorem validateSettlementFile_rowFates {expected name : PyStr} {filename : FilenameMetadata}
    (named : parseSettlementFilename settlementV1 expected name = .ok filename)
    {context : RejectionContext} {data : Bytes} {result : FileValidationResult}
    (judged : validateSettlementFile settlementV1 filename context data = .ok result) :
    RowFates filename result (dataCells settlementV1 data) := by
  have rows := dataRows_cells settlementV1 data
  cases parsed : dataRows settlementV1 data with
  | none =>
    obtain ⟨issue, refused⟩ := @validateSettlementFile_refused _ filename context _ parsed
    obtain rfl := Except.ok.inj (refused.symm.trans judged)
    rw [parsed] at rows
    rw [List.map_eq_nil_iff.mp rows.symm]
    constructor
    · intro record member
      cases member
    · intro index cells found
      cases found
    · intro index cells found
      cases found
    · intro index cells found
      cases found
  | some raws =>
    rw [parsed] at rows
    rw [validateSettlementFile_rows parsed] at judged
    obtain ⟨list, returned, rfl⟩ := map_eq_ok.mp judged
    rw [show raws = (dataCells settlementV1 data).map (rawRecord settlementV1) from rows]
      at returned
    exact verdicts_rowFates named returned

/-- Extra columns are not accepted: an accepted record has a row of exactly eleven cells, a row
with fewer or more cells is rejected, and a row that is reported as a duplicate repeats an earlier
row in every cell. -/
structure ExactColumns (result : FileValidationResult) (rows : List (List PyStr)) : Prop where
  /-- An accepted record has a row of exactly eleven cells. -/
  accepted : ∀ record ∈ result.acceptedRecords, ∃ index cells,
    record.sourceRowNumber = 2 + index ∧ rows[index]? = some cells ∧ cells.length = 11
  /-- A row with fewer or more cells is rejected. -/
  rejected : ∀ index cells, rows[index]? = some cells → cells.length ≠ 11 →
    ∃ rejection ∈ result.rejectedRecords, rejection.sourceRowNumber = 2 + index
  /-- A row that is reported as a duplicate repeats an earlier row. -/
  duplicate : ∀ index cells, rows[index]? = some cells → ∀ rejection ∈ result.rejectedRecords,
    rejection.sourceRowNumber = 2 + index → rejection.Reports (py "DUPLICATE_ROW") →
      ∃ earlier < index, rows[earlier]? = some cells

/-- The surplus of a row decides nothing: a row with more than eleven cells is not acceptable by
its first eleven, and rows with the same first eleven cells are the same. -/
structure HarmlessSurplus (filename : FilenameMetadata) (rows : List (List PyStr)) : Prop where
  /-- A row with more than eleven cells is not acceptable by its first eleven. -/
  refused : ∀ index cells, rows[index]? = some cells → 11 < cells.length →
    ¬ Acceptable filename ((rows.take index).map (rawRecord settlementV1))
      (rawRecord settlementV1 cells)
  /-- Rows with the same first eleven cells are the same. -/
  same : ∀ cells ∈ rows, ∀ other ∈ rows, other.take 11 = cells.take 11 → other = cells

/-- Rows that repeat in their first eleven cells are the same when each of them repeats an earlier
row in every cell. -/
theorem same_of_repeats {rows : List (List PyStr)}
    (repeats : ∀ index cells, rows[index]? = some cells →
      (∃ other ∈ rows.take index, other.take 11 = cells.take 11) →
        ∃ earlier < index, rows[earlier]? = some cells) (index : Nat) :
    ∀ cells, rows[index]? = some cells → ∀ place < index, ∀ other, rows[place]? = some other →
      other.take 11 = cells.take 11 → other = cells := by
  -- the row repeats an earlier one, which is compared with the other one of the two
  induction index using Nat.strong_induction_on with
  | _ index ih =>
    intro cells found place before other there alike
    have early : other ∈ rows.take index := by
      refine List.mem_of_getElem? (i := place) ?_
      rw [List.getElem?_take, if_pos before]
      exact there
    obtain ⟨earlier, less, same⟩ := repeats index cells found ⟨other, early, alike⟩
    rcases Nat.lt_trichotomy earlier place with first | rfl | second
    · exact (ih place before other there earlier first cells same alike.symm).symm
    · exact Option.some.inj (there.symm.trans same)
    · exact ih earlier less cells same place second other there alike

/-- Extra columns are not accepted exactly when the surplus of the rows decides nothing. -/
theorem exact_columns_iff {expected name : PyStr} {filename : FilenameMetadata}
    (named : parseSettlementFilename settlementV1 expected name = .ok filename)
    {context : RejectionContext} {data : Bytes} {result : FileValidationResult}
    (judged : validateSettlementFile settlementV1 filename context data = .ok result) :
    ExactColumns result (dataCells settlementV1 data) ↔
      HarmlessSurplus filename (dataCells settlementV1 data) := by
  have fates := validateSettlementFile_rowFates named judged
  generalize dataCells settlementV1 data = rows at fates ⊢
  constructor
  · intro exact_
    constructor
    · intro index cells found surplus
      exact (fates.rejected index cells found).mp (exact_.rejected index cells found (by omega))
    · have repeats : ∀ index cells, rows[index]? = some cells →
          (∃ other ∈ rows.take index, other.take 11 = cells.take 11) →
            ∃ earlier < index, rows[earlier]? = some cells := by
        intro index cells found seen
        obtain ⟨rejection, member, number⟩ := (fates.rejected index cells found).mpr
          fun acceptable => acceptable.fresh ((cellsSeen_iff _ cells).mpr seen)
        exact exact_.duplicate index cells found rejection member number
          ((fates.duplicate index cells found rejection member number).mpr seen)
      intro cells member other inside alike
      obtain ⟨index, found⟩ := List.mem_iff_getElem?.mp member
      obtain ⟨place, there⟩ := List.mem_iff_getElem?.mp inside
      rcases Nat.lt_trichotomy place index with before | rfl | after
      · exact same_of_repeats repeats index cells found place before other there alike
      · exact Option.some.inj (there.symm.trans found)
      · exact (same_of_repeats repeats place other there index after cells found alike.symm).symm
  · intro harmless
    constructor
    · intro record member
      obtain ⟨index, cells, number, found⟩ := fates.origin record member
      have acceptable := (fates.accepted index cells found).mp ⟨record, member, number⟩
      refine ⟨index, cells, number, found, Nat.le_antisymm ?_ acceptable.cells⟩
      by_contra surplus
      exact harmless.refused index cells found (by omega) acceptable
    · intro index cells found other
      refine (fates.rejected index cells found).mpr fun acceptable => ?_
      exact harmless.refused index cells found
        (Nat.lt_of_le_of_ne acceptable.cells (Ne.symm other)) acceptable
    · intro index cells found rejection member number reported
      obtain ⟨other, seen, alike⟩ :=
        (fates.duplicate index cells found rejection member number).mp reported
      obtain ⟨earlier, there⟩ := List.mem_iff_getElem?.mp seen
      rw [List.getElem?_take] at there
      split at there
      · rename_i less
        have same := harmless.same cells (List.mem_of_getElem? found) other
          (List.mem_of_getElem? there) alike
        exact ⟨earlier, less, same ▸ there⟩
      · cases there

/-- The sample file has rows of eleven cells, and extra columns are not accepted from it. -/
theorem sample_columns_exact : ∃ result,
    validateSettlementFile settlementV1 sampleFilename sampleContext (sampleHeader ++ sampleRows) =
      .ok result ∧ result.acceptedRecords.length = 1 ∧
    ExactColumns result (dataCells settlementV1 (sampleHeader ++ sampleRows)) := by
  obtain ⟨result, judged, clean, one, -⟩ := sample_validated
  refine ⟨result, judged, one, (exact_columns_iff sampleName_parsed judged).mpr ?_⟩
  have eleven : ∀ cells ∈ dataCells settlementV1 (sampleHeader ++ sampleRows),
      cells.length = 11 := by decide +kernel
  constructor
  · intro index cells found surplus
    have := eleven cells (List.mem_of_getElem? found)
    omega
  · intro cells member other inside alike
    rw [List.take_of_length_le (eleven cells member).le,
      List.take_of_length_le (eleven other inside).le] at alike
    exact alike

/-- The sample row with a twelfth cell,
`VCB,2026-07-22,S1,P1,,2026-07-22T10:00:00Z,1.00,VND,SETTLED,0,1.00,9.00`. -/
def surplusRow : Bytes :=
  utf8 "VCB,2026-07-22,S1,P1,,2026-07-22T10:00:00Z,1.00,VND,SETTLED,0,1.00,9.00\n"

/-- A row of twelve cells is accepted. -/
theorem surplus_accepted : ∃ result,
    validateSettlementFile settlementV1 sampleFilename sampleContext (sampleHeader ++ surplusRow) =
      .ok result ∧ result.fileIssues = [] ∧
    ¬ ExactColumns result (dataCells settlementV1 (sampleHeader ++ surplusRow)) := by
  have counted : (match validateSettlementFile settlementV1 sampleFilename sampleContext
      (sampleHeader ++ surplusRow) with
    | .ok result => decide (result.fileIssues = [] ∧ result.acceptedRecords.length = 1)
    | .error _ => false) = true := by decide +kernel
  have lengths : (dataCells settlementV1 (sampleHeader ++ surplusRow)).map List.length = [12] := by
    decide +kernel
  cases judged : validateSettlementFile settlementV1 sampleFilename sampleContext
      (sampleHeader ++ surplusRow) with
  | error problem => rw [judged] at counted; cases counted
  | ok result =>
    rw [judged] at counted
    obtain ⟨clean, one⟩ := of_decide_eq_true counted
    refine ⟨result, rfl, clean, fun exact_ => ?_⟩
    obtain ⟨record, accepted⟩ := List.exists_mem_of_length_pos (l := result.acceptedRecords)
      (by omega)
    obtain ⟨index, cells, -, found, eleven⟩ := exact_.accepted record accepted
    have twelve : cells.length ∈ (dataCells settlementV1 (sampleHeader ++ surplusRow)).map
      List.length := List.mem_map_of_mem (List.mem_of_getElem? found)
    rw [lengths, List.mem_singleton] at twelve
    omega

end Settlement

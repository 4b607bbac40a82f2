import PaymentsPlatform.Settlement.Rules

/-!
# The verdict on every row of a file

`validate_settlement_file` gives each data row a verdict. A row is accepted, rejected, or neither:
a row without an issue that leaves a column blank which a record needs is in neither list. The
verdict depends on the row and, through duplicates only, on the rows before it.
-/

namespace Settlement

open Python

/-- What becomes of a row. -/
inductive RowVerdict
  /-- The row is in `accepted_records`. -/
  | accepted (record : SettlementRecord)
  /-- The row is in `rejected_records`. -/
  | rejected (record : RejectedRecord)
  /-- The row is in neither. -/
  | dropped

/-- The record of an accepted row. -/
def RowVerdict.record? : RowVerdict → Option SettlementRecord
  | accepted record => some record
  | _ => none

/-- The rejection of a rejected row. -/
def RowVerdict.rejection? : RowVerdict → Option RejectedRecord
  | rejected record => some record
  | _ => none

section Rows

variable (contract : SettlementContract) (filename : FilenameMetadata) (context : RejectionContext)

/-- The verdict on one row. -/
def judge (rowNumber : Nat) (seen : SeenRows) (raw : RawRecord) : Except PyError RowVerdict :=
  (validateRow contract filename raw rowNumber).map fun (record, recordIssues) =>
    let issues := seen.issues raw ++ recordIssues
    if issues ≠ [] then .rejected (rejectRow context raw rowNumber issues)
    else match record with
      | some record => .accepted record
      | none => .dropped

/-- The verdicts on all rows, from row number `rowNumber` on. -/
def verdicts (rowNumber : Nat) (seen : SeenRows) : List RawRecord → Except PyError (List RowVerdict)
  | [] => .ok []
  | raw :: rows => do
    let verdict ← judge contract filename context rowNumber seen raw
    let later ← verdicts (rowNumber + 1) (seen.add raw) rows
    return verdict :: later

/-- The loop over the rows collects the verdicts. -/
theorem validateRows_verdicts (rowNumber : Nat) (seen : SeenRows) (rows : List RawRecord) :
    validateRows contract filename context rowNumber seen rows =
      (verdicts contract filename context rowNumber seen rows).map fun list =>
        (list.filterMap RowVerdict.record?, list.filterMap RowVerdict.rejection?) := by
  induction rows generalizing rowNumber seen with
  | nil => rfl
  | cons raw rows ih =>
    unfold validateRows verdicts judge
    rw [ih]
    cases validateRow contract filename raw rowNumber with
    | error problem => rfl
    | ok row =>
    obtain ⟨record, recordIssues⟩ := row
    cases verdicts contract filename context (rowNumber + 1) (seen.add raw) rows with
    | error problem => rfl
    | ok later =>
    simp only [bind, Except.bind, Except.map, pure, Except.pure]
    by_cases clean : seen.issues raw ++ recordIssues ≠ []
    · rw [if_pos clean, if_pos clean]
      rfl
    · rw [if_neg clean, if_neg clean]
      cases record <;> rfl

/-- What the rows before a row left behind. -/
def SeenRows.after (seen : SeenRows) (earlier : List RawRecord) : SeenRows :=
  earlier.foldl SeenRows.add seen

/-- The verdict on the row at an index. -/
theorem verdicts_get {rowNumber : Nat} {seen : SeenRows} {rows : List RawRecord}
    {list : List RowVerdict}
    (judged : verdicts contract filename context rowNumber seen rows = .ok list) :
    list.length = rows.length ∧ ∀ index raw, rows[index]? = some raw → ∃ verdict,
      list[index]? = some verdict ∧
        judge contract filename context (rowNumber + index) (seen.after (rows.take index)) raw =
          .ok verdict := by
  induction rows generalizing rowNumber seen list with
  | nil =>
    obtain rfl := Except.ok.inj judged
    exact ⟨rfl, fun index raw found => by simp at found⟩
  | cons first rows ih =>
    unfold verdicts at judged
    cases one : judge contract filename context rowNumber seen first with
    | error problem => rw [one] at judged; cases judged
    | ok verdict =>
    cases rest : verdicts contract filename context (rowNumber + 1) (seen.add first) rows with
    | error problem => rw [one, rest] at judged; cases judged
    | ok later =>
    rw [one, rest] at judged
    obtain rfl := Except.ok.inj judged
    obtain ⟨length, each⟩ := ih rest
    refine ⟨congrArg (· + 1) length, fun index raw found => ?_⟩
    cases index with
    | zero =>
      obtain rfl := Option.some.inj found
      exact ⟨verdict, rfl, one⟩
    | succ index =>
      obtain ⟨own, same, verdictOwn⟩ := each index raw found
      refine ⟨own, same, ?_⟩
      rw [show rowNumber + (index + 1) = rowNumber + 1 + index by omega]
      exact verdictOwn

/-- All rows get a verdict when each can be read. -/
theorem verdicts_ok_iff (rowNumber : Nat) (seen : SeenRows) (rows : List RawRecord) :
    (∃ list, verdicts contract filename context rowNumber seen rows = .ok list) ↔
      ∀ raw ∈ rows, Readable contract raw := by
  induction rows generalizing rowNumber seen with
  | nil => exact ⟨fun _ raw member => (by cases member), fun _ => ⟨[], rfl⟩⟩
  | cons first rows ih =>
    rw [List.forall_mem_cons, ← validateRow_returns_iff contract filename first rowNumber,
      ← ih (rowNumber + 1) (seen.add first), verdicts, judge]
    cases validateRow contract filename first rowNumber with
    | error problem => simp [bind, Except.bind, Except.map]
    | ok row =>
      cases verdicts contract filename context (rowNumber + 1) (seen.add first) rows with
      | error problem => simp [bind, Except.bind, Except.map]
      | ok later => simp [bind, Except.bind, Except.map, pure, Except.pure]

end Rows

/-! ## Duplicates -/

/-- An earlier row has the same cells. -/
def CellsSeen (earlier : List RawRecord) (raw : RawRecord) : Prop :=
  ∃ other ∈ earlier, other.map Prod.snd = raw.map Prod.snd

/-- An earlier row has the same reference. -/
def ReferenceSeen (earlier : List RawRecord) (raw : RawRecord) : Prop :=
  ∃ other ∈ earlier,
    textOf other "settlement_reference" = textOf raw "settlement_reference"

/-- What was seen: the cells of the earlier rows, and their references that are not blank. -/
theorem SeenRows.after_spec (seen : SeenRows) (earlier : List RawRecord) :
    (∀ cells, cells ∈ (seen.after earlier).rows ↔
      cells ∈ seen.rows ∨ ∃ other ∈ earlier, other.map Prod.snd = cells) ∧
    ∀ reference, reference ∈ (seen.after earlier).references ↔
      reference ∈ seen.references ∨ (reference ≠ [] ∧
        ∃ other ∈ earlier, textOf other "settlement_reference" = reference) := by
  induction earlier generalizing seen with
  | nil => simp [SeenRows.after]
  | cons first earlier ih =>
    obtain ⟨rows, references⟩ := ih (seen.add first)
    constructor
    · intro cells
      refine (rows cells).trans ?_
      simp only [SeenRows.add, List.mem_cons, exists_eq_or_imp]
      constructor
      · rintro ((same | before) | later)
        · exact Or.inr (Or.inl same.symm)
        · exact Or.inl before
        · exact Or.inr (Or.inr later)
      · rintro (before | same | later)
        · exact Or.inl (Or.inr before)
        · exact Or.inl (Or.inl same.symm)
        · exact Or.inr later
    · intro reference
      refine (references reference).trans ?_
      simp only [SeenRows.add, List.mem_cons, exists_eq_or_imp]
      by_cases blank : textOf first "settlement_reference" = []
      · rw [if_pos blank, blank]
        constructor
        · rintro (before | ⟨filled, later⟩)
          · exact Or.inl before
          · exact Or.inr ⟨filled, Or.inr later⟩
        · rintro (before | ⟨filled, same | later⟩)
          · exact Or.inl before
          · exact absurd same.symm filled
          · exact Or.inr ⟨filled, later⟩
      · rw [if_neg blank, List.mem_cons]
        constructor
        · rintro ((same | before) | ⟨filled, later⟩)
          · exact Or.inr ⟨same ▸ blank, Or.inl same.symm⟩
          · exact Or.inl before
          · exact Or.inr ⟨filled, Or.inr later⟩
        · rintro (before | ⟨filled, same | later⟩)
          · exact Or.inl (Or.inr before)
          · exact Or.inl (Or.inl same.symm)
          · exact Or.inr ⟨filled, later⟩

/-- The issues of duplicates, by what the earlier rows have. -/
theorem after_issues (earlier : List RawRecord) (raw : RawRecord) :
    (raw.map Prod.snd ∈ (SeenRows.after {} earlier).rows ↔ CellsSeen earlier raw) ∧
      (textOf raw "settlement_reference" ∈ (SeenRows.after {} earlier).references ↔
        textOf raw "settlement_reference" ≠ [] ∧ ReferenceSeen earlier raw) := by
  obtain ⟨rows, references⟩ := SeenRows.after_spec {} earlier
  refine ⟨(rows _).trans ?_, (references _).trans ?_⟩
  · simp [CellsSeen]
  · simp [ReferenceSeen]

/-- A row has no issue of duplicates when no earlier row has its cells or its reference. -/
theorem after_issues_eq_nil (earlier : List RawRecord) (raw : RawRecord) :
    (SeenRows.after {} earlier).issues raw = [] ↔ ¬ CellsSeen earlier raw ∧
      (textOf raw "settlement_reference" ≠ [] → ¬ ReferenceSeen earlier raw) := by
  obtain ⟨cells, reference⟩ := after_issues earlier raw
  unfold SeenRows.issues
  simp only [List.append_eq_nil_iff, issueIf_eq_nil, cells, reference]
  constructor
  · rintro ⟨fresh, unique⟩
    exact ⟨fresh, fun filled seen => unique ⟨⟨filled, seen⟩, fresh⟩⟩
  · rintro ⟨fresh, unique⟩
    exact ⟨fresh, fun both => unique both.1.1 both.1.2⟩

/-- The issues of duplicates agree where the earlier rows agree on the cells and the reference. -/
theorem after_issues_congr {earlier other : List RawRecord} {raw : RawRecord}
    (cells : CellsSeen earlier raw ↔ CellsSeen other raw)
    (reference : ReferenceSeen earlier raw ↔ ReferenceSeen other raw) :
    (SeenRows.after {} earlier).issues raw = (SeenRows.after {} other).issues raw := by
  have sameCells : raw.map Prod.snd ∈ (SeenRows.after {} earlier).rows ↔
      raw.map Prod.snd ∈ (SeenRows.after {} other).rows := by
    rw [(after_issues earlier raw).1, (after_issues other raw).1, cells]
  have sameReference : textOf raw "settlement_reference" ∈ (SeenRows.after {} earlier).references ↔
      textOf raw "settlement_reference" ∈ (SeenRows.after {} other).references := by
    rw [(after_issues earlier raw).2, (after_issues other raw).2, reference]
  unfold SeenRows.issues issueIf
  simp only [sameCells, sameReference]

/-- What the verdict on a row says. -/
def RowVerdict.Means (contract : SettlementContract) (filename : FilenameMetadata)
    (earlier : List RawRecord) (rowNumber : Nat) (raw : RawRecord) : RowVerdict → Prop
  | accepted record => (SeenRows.after {} earlier).issues raw = [] ∧
      Follows contract filename raw ∧ Filled raw ∧ RecordOf contract raw rowNumber record
  | rejected record =>
      ¬ ((SeenRows.after {} earlier).issues raw = [] ∧ Follows contract filename raw) ∧
        record.sourceRowNumber = rowNumber
  | dropped => (SeenRows.after {} earlier).issues raw = [] ∧ Follows contract filename raw ∧
      ¬ Filled raw

/-- The verdict on a row. -/
theorem judge_means {contract : SettlementContract} {filename : FilenameMetadata}
    {context : RejectionContext} {rowNumber : Nat} {earlier : List RawRecord} {raw : RawRecord}
    {verdict : RowVerdict}
    (judged : judge contract filename context rowNumber (SeenRows.after {} earlier) raw =
      .ok verdict) : verdict.Means contract filename earlier rowNumber raw := by
  unfold judge at judged
  cases returned : validateRow contract filename raw rowNumber with
  | error problem => rw [returned] at judged; cases judged
  | ok row =>
  obtain ⟨record, issues⟩ := row
  obtain ⟨clean, isRecord, filled⟩ := validateRow_spec returned
  rw [returned] at judged
  simp only [Except.map, Except.ok.injEq] at judged
  subst judged
  split
  · rename_i bad
    refine ⟨fun ⟨fresh, follows⟩ => bad ?_, rfl⟩
    rw [fresh, clean.mpr follows]
    rfl
  · rename_i good
    obtain ⟨fresh, none_left⟩ := List.append_eq_nil_iff.mp (not_not.mp good)
    have follows := clean.mp none_left
    cases record with
    | none => exact ⟨fresh, follows, fun all => filled.mpr ⟨follows, all⟩ rfl⟩
    | some record =>
      exact ⟨fresh, follows, (filled.mp (Option.some_ne_none record)).2, isRecord record rfl⟩

/-! ## Row numbers -/

/-- The verdict at an index says what the row is, and carries its number. -/
theorem verdict_at {contract : SettlementContract} {filename : FilenameMetadata}
    {context : RejectionContext} {rows : List RawRecord} {list : List RowVerdict}
    (judged : verdicts contract filename context 2 {} rows = .ok list) {index : Nat}
    {verdict : RowVerdict} (found : list[index]? = some verdict) :
    ∃ raw, rows[index]? = some raw ∧
      verdict.Means contract filename (rows.take index) (2 + index) raw := by
  obtain ⟨length, each⟩ := verdicts_get contract filename context judged
  obtain ⟨inside, -⟩ := List.getElem?_eq_some_iff.mp found
  obtain ⟨raw, row⟩ : ∃ raw, rows[index]? = some raw :=
    ⟨rows[index], List.getElem?_eq_getElem (length ▸ inside)⟩
  obtain ⟨own, same, means⟩ := each index raw row
  obtain rfl := Option.some.inj (found.symm.trans same)
  exact ⟨raw, row, judge_means means⟩

/-- The accepted record with a row number is the verdict on that row. -/
theorem accepted_iff_verdict {contract : SettlementContract} {filename : FilenameMetadata}
    {context : RejectionContext} {rows : List RawRecord} {list : List RowVerdict}
    (judged : verdicts contract filename context 2 {} rows = .ok list)
    (record : SettlementRecord) (index : Nat) :
    (record ∈ list.filterMap RowVerdict.record? ∧ record.sourceRowNumber = 2 + index) ↔
      list[index]? = some (.accepted record) := by
  constructor
  · rintro ⟨member, number⟩
    obtain ⟨verdict, inside, own⟩ := List.mem_filterMap.mp member
    obtain ⟨other, found⟩ := List.mem_iff_getElem?.mp inside
    cases verdict with
    | rejected record => cases own
    | dropped => cases own
    | accepted same =>
      obtain rfl := Option.some.inj own
      obtain ⟨raw, -, -, -, -, recordOf⟩ := verdict_at judged found
      have position : other = index := by
        have equal := recordOf.row.symm.trans number
        omega
      rw [← position]
      exact found
  · intro found
    obtain ⟨raw, -, -, -, -, recordOf⟩ := verdict_at judged found
    exact ⟨List.mem_filterMap.mpr ⟨_, List.mem_of_getElem? found, rfl⟩, recordOf.row⟩

/-- The rejection with a row number is the verdict on that row. -/
theorem rejected_iff_verdict {contract : SettlementContract} {filename : FilenameMetadata}
    {context : RejectionContext} {rows : List RawRecord} {list : List RowVerdict}
    (judged : verdicts contract filename context 2 {} rows = .ok list)
    (record : RejectedRecord) (index : Nat) :
    (record ∈ list.filterMap RowVerdict.rejection? ∧ record.sourceRowNumber = 2 + index) ↔
      list[index]? = some (.rejected record) := by
  constructor
  · rintro ⟨member, number⟩
    obtain ⟨verdict, inside, own⟩ := List.mem_filterMap.mp member
    obtain ⟨other, found⟩ := List.mem_iff_getElem?.mp inside
    cases verdict with
    | accepted record => cases own
    | dropped => cases own
    | rejected same =>
      obtain rfl := Option.some.inj own
      obtain ⟨raw, -, -, row⟩ := verdict_at judged found
      have position : other = index := by
        have equal := row.symm.trans number
        omega
      rw [← position]
      exact found
  · intro found
    obtain ⟨raw, -, -, row⟩ := verdict_at judged found
    exact ⟨List.mem_filterMap.mpr ⟨_, List.mem_of_getElem? found, rfl⟩, row⟩

/-- The rows that are neither accepted nor rejected make the difference of the counts. -/
theorem verdicts_count (list : List RowVerdict) :
    (list.filterMap RowVerdict.record?).length + (list.filterMap RowVerdict.rejection?).length =
      list.length ↔ .dropped ∉ list := by
  have bound : ∀ list : List RowVerdict, (list.filterMap RowVerdict.record?).length +
      (list.filterMap RowVerdict.rejection?).length ≤ list.length := by
    intro list
    induction list with
    | nil => exact Nat.le_refl 0
    | cons verdict list ih =>
      cases verdict <;> simp [List.filterMap_cons, RowVerdict.record?, RowVerdict.rejection?] <;>
        omega
  induction list with
  | nil => simp
  | cons verdict list ih =>
    cases verdict with
    | accepted record =>
      simp [List.filterMap_cons, RowVerdict.record?, RowVerdict.rejection?, ← ih]
      omega
    | rejected record =>
      simp [List.filterMap_cons, RowVerdict.record?, RowVerdict.rejection?, ← ih]
      omega
    | dropped =>
      have room := bound list
      simp [List.filterMap_cons, RowVerdict.record?, RowVerdict.rejection?]
      omega

/-! ## Files -/

/-- The data rows of a file without a file issue. -/
def dataRows (contract : SettlementContract) (data : Bytes) : Option (List RawRecord) :=
  match contract.decode data with
  | none => none
  | some text =>
    match csvFirst contract.delimiter {} (splitLines text) with
    | .ok (some header, lines) =>
      if header ≠ contract.fieldNames then none
      else match csvRecords contract.delimiter {} lines with
        | .error _ => none
        | .ok records =>
          let rows := (records.filter fun cells => cells ≠ []).map (rawRecord contract)
          if rows = [] then none else some rows
    | _ => none

/-- A file without data rows has a file issue and nothing else. -/
theorem validateSettlementFile_refused {contract : SettlementContract}
    {filename : FilenameMetadata} {context : RejectionContext} {data : Bytes}
    (refused : dataRows contract data = none) : ∃ issue,
      validateSettlementFile contract filename context data = .ok ⟨[issue], [], [], 0⟩ := by
  unfold dataRows at refused
  unfold validateSettlementFile
  split
  · exact ⟨_, rfl⟩
  · rename_i text decoded
    rw [decoded] at refused
    dsimp only at refused ⊢
    split
    · exact ⟨_, rfl⟩
    · exact ⟨_, rfl⟩
    · rename_i header lines first
      rw [first] at refused
      dsimp only at refused
      split
      · exact ⟨_, rfl⟩
      · rename_i matching
        rw [if_neg matching] at refused
        split
        · exact ⟨_, rfl⟩
        · rename_i records read
          rw [read] at refused
          dsimp only at refused
          split
          · exact ⟨_, rfl⟩
          · rename_i filled
            rw [if_neg filled] at refused
            cases refused

/-- A file with data rows collects the verdicts on them. -/
theorem validateSettlementFile_rows {contract : SettlementContract}
    {filename : FilenameMetadata} {context : RejectionContext} {data : Bytes}
    {rows : List RawRecord} (parsed : dataRows contract data = some rows) :
    validateSettlementFile contract filename context data =
      (verdicts contract filename context 2 {} rows).map fun list =>
        ⟨[], list.filterMap RowVerdict.record?, list.filterMap RowVerdict.rejection?,
          rows.length⟩ := by
  unfold dataRows at parsed
  unfold validateSettlementFile
  cases decoded : contract.decode data with
  | none =>
    rw [decoded] at parsed
    cases parsed
  | some text =>
    rw [decoded] at parsed
    dsimp only at parsed ⊢
    cases first : csvFirst contract.delimiter {} (splitLines text) with
    | error problem =>
      rw [first] at parsed
      cases parsed
    | ok found =>
      rw [first] at parsed
      obtain ⟨_ | header, lines⟩ := found
      · cases parsed
      · dsimp only at parsed ⊢
        by_cases differs : header ≠ contract.fieldNames
        · rw [if_pos differs] at parsed
          cases parsed
        · rw [if_neg differs] at parsed ⊢
          cases read : csvRecords contract.delimiter {} lines with
          | error problem =>
            rw [read] at parsed
            cases parsed
          | ok records =>
            rw [read] at parsed
            dsimp only at parsed ⊢
            split at parsed
            · cases parsed
            · rename_i filled
              rw [if_neg filled, Option.some.inj parsed, validateRows_verdicts]
              cases verdicts contract filename context 2 {} rows <;> rfl

/-- The verdicts behind a result without a file issue. -/
theorem result_verdicts {contract : SettlementContract} {filename : FilenameMetadata}
    {context : RejectionContext} {data : Bytes} {result : FileValidationResult}
    (judged : validateSettlementFile contract filename context data = .ok result)
    (clean : result.fileIssues = []) :
    ∃ rows list, dataRows contract data = some rows ∧
      verdicts contract filename context 2 {} rows = .ok list ∧
      result = ⟨[], list.filterMap RowVerdict.record?, list.filterMap RowVerdict.rejection?,
        rows.length⟩ := by
  cases parsed : dataRows contract data with
  | none =>
    obtain ⟨issue, refused⟩ :=
      @validateSettlementFile_refused _ filename context _ parsed
    rw [judged] at refused
    rw [Except.ok.inj refused] at clean
    cases clean
  | some rows =>
    rw [validateSettlementFile_rows parsed] at judged
    cases returned : verdicts contract filename context 2 {} rows with
    | error problem => rw [returned] at judged; cases judged
    | ok list =>
      rw [returned] at judged
      exact ⟨rows, list, rfl, returned, (Except.ok.inj judged).symm⟩

/-- Validation returns a result exactly when every data row can be read. -/
theorem validateSettlementFile_returns_iff (contract : SettlementContract)
    (filename : FilenameMetadata) (context : RejectionContext) (data : Bytes) :
    (∃ result, validateSettlementFile contract filename context data = .ok result) ↔
      ∀ rows, dataRows contract data = some rows → ∀ raw ∈ rows, Readable contract raw := by
  cases parsed : dataRows contract data with
  | none =>
    obtain ⟨issue, refused⟩ :=
      @validateSettlementFile_refused _ filename context _ parsed
    exact ⟨fun _ rows no => (by cases no), fun _ => ⟨_, refused⟩⟩
  | some rows =>
    rw [validateSettlementFile_rows parsed]
    have returns := verdicts_ok_iff contract filename context 2 {} rows
    constructor
    · rintro ⟨result, judged⟩ own same
      obtain rfl := Option.some.inj same
      refine returns.mp ?_
      cases returned : verdicts contract filename context 2 {} rows with
      | error problem => rw [returned] at judged; cases judged
      | ok list => exact ⟨list, rfl⟩
    · intro all
      obtain ⟨list, returned⟩ := returns.mpr (all rows rfl)
      rw [returned]
      exact ⟨_, rfl⟩

end Settlement

import PaymentsPlatform.Settlement.Acceptance
import PaymentsPlatform.Settlement.Contracts

/-!
# Every row of a settlement file is accounted for

Two laws of `validate_settlement_file`. It returns, and judges each row on its own but for
duplicates, unless a timestamp with an offset lies outside the calendar in UTC, which raises. And
under every loadable contract each data row is in exactly one of the two lists, unless a row without
an issue leaves a column blank that a record needs: the list of these columns is fixed in the code,
while the contract says which columns must be filled.
-/

namespace Settlement

open Python

/-! ## Validation returns -/

/-- Under `settlement-v1` only a time outside the calendar cannot be read. -/
theorem readable_iff (raw : RawRecord) :
    Readable settlementV1 raw ↔ ¬ OutOfCalendar (textOf raw "transaction_timestamp") := by
  refine ⟨fun readable => readable.time, fun inside => ⟨inside, ?_, ?_⟩⟩
  · intro name member filled literal admits failed
    have columns : ∀ name ∈ [py "amount", py "fee_amount", py "net_amount"],
        (settlementV1.field name).precision = some 18 ∧
          (settlementV1.field name).scale = some 2 := by decide
    have digits := columns name member
    have amount : AmountLiteral (textOf raw name) literal :=
      ⟨admits.parsed, admits.scale 2 digits.2, admits.precision 18 digits.1⟩
    obtain ⟨cents, whole, small⟩ := amount.cents
    rw [Decimal.quantize_exact whole (Nat.lt_trans small (by decide))] at failed
    cases failed
  · intro amount fee net paid charged _ failed
    have small : ∀ {field : FieldContract} {text : PyStr} {value : Decimal},
        field.precision = some 18 → field.scale = some 2 → AmountOf field text value →
          value.coefficient < 10 ^ 20 := by
      intro field text value precision scale amount
      obtain ⟨literal, own, same, places⟩ := amount.literal precision scale
      obtain ⟨cents, whole, small⟩ := own.cents
      have equal : (value.coefficient : ℚ) = cents := by
        rw [← whole, literal.magnitude_eq_abs, ← same, ← value.magnitude_eq_abs,
          Decimal.magnitude, places]
        norm_num
      have equal' : value.coefficient = cents := by exact_mod_cast equal
      rw [equal']
      exact small
    have amountSmall := small rfl rfl paid
    have feeSmall := small rfl rfl charged
    unfold Decimal.subtractCents at failed
    dsimp only at failed
    split at failed
    · rename_i long
      have bound : (amount.signed - fee.signed).natAbs < 10 ^ Decimal.contextPrecision := by
        have size : ∀ value : Decimal, value.signed.natAbs = value.coefficient := by
          intro value
          unfold Decimal.signed
          split
          · omega
          · omega
        have first := size amount
        have second := size fee
        have sum := Int.natAbs_sub_le amount.signed fee.signed
        unfold Decimal.contextPrecision
        omega
      exact absurd ((natText_length_le (by decide)).mpr bound) (Nat.not_le.mpr long)
    · cases failed

/-- Two results agree on the row at an index. -/
structure SameVerdict (result result' : FileValidationResult) (index : Nat) : Prop where
  /-- The row is accepted in both or in none, with the same record. -/
  accepted : ∀ record : SettlementRecord, record.sourceRowNumber = 2 + index →
    (record ∈ result.acceptedRecords ↔ record ∈ result'.acceptedRecords)
  /-- The row is rejected in both or in none, with the same issues. -/
  rejected : ∀ record : RejectedRecord, record.sourceRowNumber = 2 + index →
    (record ∈ result.rejectedRecords ↔ record ∈ result'.rejectedRecords)

/-- Replacing the cells of one row changes the verdict on another only through duplicates: only when
it changes whether an earlier row has the cells or the reference of that other row. -/
def JudgedAlone (contract : SettlementContract) (filename : FilenameMetadata)
    (context : RejectionContext) (data : Bytes) : Prop :=
  ∀ data' rows position replaced result result',
    dataRows contract data = some rows →
    dataRows contract data' = some (rows.set position replaced) →
    validateSettlementFile contract filename context data = .ok result →
    validateSettlementFile contract filename context data' = .ok result' →
    ∀ index raw, index ≠ position → rows[index]? = some raw →
      (CellsSeen (rows.take index) raw ↔
        CellsSeen ((rows.set position replaced).take index) raw) →
      (ReferenceSeen (rows.take index) raw ↔
        ReferenceSeen ((rows.set position replaced).take index) raw) →
      SameVerdict result result' index

/-- Rows are judged on their own but for duplicates. -/
theorem judgedAlone (contract : SettlementContract) (filename : FilenameMetadata)
    (context : RejectionContext) (data : Bytes) : JudgedAlone contract filename context data := by
  intro data' rows position replaced result result' parsed parsed' judged judged' index raw other
    row cells reference
  rw [validateSettlementFile_rows parsed] at judged
  rw [validateSettlementFile_rows parsed'] at judged'
  cases returned : verdicts contract filename context 2 {} rows with
  | error problem => rw [returned] at judged; cases judged
  | ok list =>
  cases returned' : verdicts contract filename context 2 {} (rows.set position replaced) with
  | error problem => rw [returned'] at judged'; cases judged'
  | ok list' =>
  rw [returned] at judged
  rw [returned'] at judged'
  obtain rfl := Except.ok.inj judged
  obtain rfl := Except.ok.inj judged'
  have row' : (rows.set position replaced)[index]? = some raw := by
    rw [List.getElem?_set_ne (Ne.symm other)]
    exact row
  obtain ⟨verdict, found, own⟩ := (verdicts_get contract filename context returned).2 index raw row
  obtain ⟨verdict', found', own'⟩ :=
    (verdicts_get contract filename context returned').2 index raw row'
  have same : verdict = verdict' := by
    unfold judge at own own'
    rw [← after_issues_congr cells reference] at own'
    exact Except.ok.inj (own.symm.trans own')
  subst same
  refine ⟨fun record number => ?_, fun record number => ?_⟩
  · have left := accepted_iff_verdict returned record index
    have right := accepted_iff_verdict returned' record index
    rw [found] at left
    rw [found'] at right
    constructor
    · intro member
      exact (right.mpr (left.mp ⟨member, number⟩)).1
    · intro member
      exact (left.mpr (right.mp ⟨member, number⟩)).1
  · have left := rejected_iff_verdict returned record index
    have right := rejected_iff_verdict returned' record index
    rw [found] at left
    rw [found'] at right
    constructor
    · intro member
      exact (right.mpr (left.mp ⟨member, number⟩)).1
    · intro member
      exact (left.mpr (right.mp ⟨member, number⟩)).1

/-- Validation returns, and judges rows on their own, exactly when no data row has a time with an
offset outside the calendar. -/
theorem validation_returns_iff (filename : FilenameMetadata) (context : RejectionContext)
    (data : Bytes) :
    ((∃ result, validateSettlementFile settlementV1 filename context data = .ok result) ∧
      JudgedAlone settlementV1 filename context data) ↔
    ∀ rows, dataRows settlementV1 data = some rows →
      ∀ raw ∈ rows, ¬ OutOfCalendar (textOf raw "transaction_timestamp") := by
  rw [and_iff_left (judgedAlone settlementV1 filename context data),
    validateSettlementFile_returns_iff]
  exact forall_congr' fun rows => imp_congr_right fun _ => forall_congr' fun raw =>
    imp_congr_right fun _ => readable_iff raw

/-- A row whose time is `0001-01-01T00:00:00+14:00`. -/
def earlyRow : Bytes :=
  utf8 "VCB,2026-07-22,S1,P1,,0001-01-01T00:00:00+14:00,1.00,VND,SETTLED,0,1.00\n"

/-- The file with that row raises. -/
theorem early_row_raises : ¬ ((∃ result, validateSettlementFile settlementV1 sampleFilename
      sampleContext (sampleHeader ++ earlyRow) = .ok result) ∧
    JudgedAlone settlementV1 sampleFilename sampleContext (sampleHeader ++ earlyRow)) := by
  have raised : (match validateSettlementFile settlementV1 sampleFilename sampleContext
      (sampleHeader ++ earlyRow) with
    | .ok _ => false
    | .error problem => decide (problem.kind = .overflowError)) = true := by decide +kernel
  rintro ⟨⟨result, returned⟩, -⟩
  rw [returned] at raised
  cases raised

/-! ## No row is lost -/

/-- A file without a file issue is counted in full, and each data row is in exactly one list. -/
def Accounted (contract : SettlementContract) (filename : FilenameMetadata)
    (context : RejectionContext) (data : Bytes) : Prop :=
  ∀ rows, dataRows contract data = some rows → ∃ result,
    validateSettlementFile contract filename context data = .ok result ∧
      result.recordCount = rows.length ∧
      result.recordCount = result.acceptedRecords.length + result.rejectedRecords.length ∧
      ∀ index < rows.length,
        ((∃ record ∈ result.acceptedRecords, record.sourceRowNumber = 2 + index) ↔
          ¬ ∃ record ∈ result.rejectedRecords, record.sourceRowNumber = 2 + index)

/-- The row breaks no rule: neither of its contract and file name, nor of duplicates. -/
def Unobjectionable (contract : SettlementContract) (filename : FilenameMetadata)
    (earlier : List RawRecord) (raw : RawRecord) : Prop :=
  Follows contract filename raw ∧ ¬ CellsSeen earlier raw ∧
    (textOf raw "settlement_reference" ≠ [] → ¬ ReferenceSeen earlier raw)

/-- A row with a blank partner. -/
def blankPartnerRow : Bytes :=
  utf8 ",2026-07-22,S1,P1,,2026-07-22T10:00:00Z,1.00,VND,SETTLED,0,1.00\n"

/-- Whether a result counts a row and has it neither accepted nor rejected. -/
def missesRow : Except PyError FileValidationResult → Bool
  | .error _ => false
  | .ok result => decide (result.recordCount = 1 ∧ result.acceptedRecords.length = 0 ∧
      result.rejectedRecords.length = 0)

/-- Whether the validation under a contract loses the row with a blank partner. -/
def losesRow : Except ContractError SettlementContract → Bool
  | .error _ => false
  | .ok contract => (dataRows contract (sampleHeader ++ blankPartnerRow)).isSome &&
      missesRow (validateSettlementFile contract sampleFilename sampleContext
        (sampleHeader ++ blankPartnerRow))

end Settlement

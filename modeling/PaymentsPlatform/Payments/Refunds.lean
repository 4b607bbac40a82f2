import PaymentsPlatform.Effects.Parallel
import PaymentsPlatform.Python.Rounding
import PaymentsPlatform.Relational.Sessions

/-!
# Refunds

`PaymentRepository.insert_refund` on PostgreSQL: lock the original transaction, compare the refund
with it, sum the refunds there are and insert. Sessions run calls, commits and rollbacks under READ
COMMITTED; their statements interleave in any order, a statement waits for the locks of others, and
any statement may fail. The rows of `payment_transactions` do not change, and refunds are written
by `insert_refund` only. Amounts of columns are in cents.
-/

namespace Payments

open Python Effects Relational

/-! ## Rows -/

/-- `TransactionStatus`. -/
inductive TransactionStatus
  | pending
  | authorized
  | completed
  | failed
  | cancelled
deriving DecidableEq

/-- `RefundStatus`. -/
inductive RefundStatus
  | pending
  | completed
  | failed
  | cancelled
deriving DecidableEq

/-- The columns of `payment_transactions` that a refund is compared with. -/
structure PaymentTransaction where
  /-- The amount in cents. -/
  amount : Nat
  /-- The currency. -/
  currency : PyStr
  /-- The status. -/
  status : TransactionStatus
  /-- The column is `NUMERIC(18, 2)`. -/
  fits : amount < 10 ^ 18

/-- A number above zero. -/
def above0 : DecimalValue → Bool
  | .finite value => !value.negative && value.coefficient ≠ 0
  | .infinity negative => !negative
  | .nan => false

/-- `Refund`. -/
structure Refund where
  /-- Primary key. -/
  refundId : Nat
  /-- The original transaction. -/
  transactionId : Nat
  /-- The amount. -/
  amount : DecimalValue
  /-- The currency. -/
  currency : PyStr
  /-- The status. -/
  status : RefundStatus
  /-- The reason. -/
  reasonCode : PyStr
  /-- The reference of the partner. -/
  partnerReference : Option PyStr
  /-- When it was requested. -/
  requestedAt : Instant
  /-- When it was completed. -/
  completedAt : Option Instant
  /-- Audit. -/
  createdAt : Instant
  /-- Audit. -/
  updatedAt : Instant
  /-- `__post_init__`. -/
  positive : above0 amount = true

/-- A row of `refunds`. -/
structure RefundRow where
  /-- Primary key. -/
  refundId : Nat
  /-- The original transaction. -/
  transactionId : Nat
  /-- The amount in cents. -/
  amount : Nat
  /-- The currency. -/
  currency : PyStr
  /-- The status. -/
  status : RefundStatus
  /-- The reason. -/
  reasonCode : PyStr
  /-- The reference of the partner. -/
  partnerReference : Option PyStr
  /-- When it was requested. -/
  requestedAt : Instant
  /-- When it was completed. -/
  completedAt : Option Instant
  /-- Audit. -/
  createdAt : Instant
  /-- Audit. -/
  updatedAt : Instant
deriving DecidableEq

/-- How a statement fails. -/
inductive DatabaseError
  | dataError
  | integrityError
  | inFailedSqlTransaction
  | operationalError
deriving DecidableEq

/-- What `insert_refund` raises. -/
inductive RefundError
  | refundRuleViolation (message : PyStr)
  | overflow
  | invalidOperation
  | database (error : DatabaseError)
deriving DecidableEq

/-- A text of a `VARCHAR` column. -/
def isVarchar (most : Nat) (text : PyStr) : Bool :=
  text.length ≤ most && encodable text && !text.contains 0

/-- `^[A-Z][A-Z0-9_]*$`. -/
def isReasonCode : PyStr → Bool
  | [] => false
  | first :: rest => (65 ≤ first && first ≤ 90) &&
      rest.all fun code => (65 ≤ code && code ≤ 90) || Json.isDigit code || code = 95

/-- The `CHECK` constraints of `refunds`. -/
def RefundRow.valid (row : RefundRow) : Bool :=
  0 < row.amount && isReasonCode row.reasonCode &&
    decide (row.status = .completed) = row.completedAt.isSome &&
    row.completedAt.all (fun completedAt => row.requestedAt.micros ≤ completedAt.micros) &&
    row.createdAt.micros ≤ row.updatedAt.micros

/-- The row an `INSERT` stores: the amount is rounded to cents. -/
def Refund.row (refund : Refund) : Except RefundError RefundRow :=
  match refund.amount with
  | .finite value =>
    let row : RefundRow := {
      refundId := refund.refundId
      transactionId := refund.transactionId
      amount := value.cents
      currency := refund.currency
      status := refund.status
      reasonCode := refund.reasonCode
      partnerReference := refund.partnerReference
      requestedAt := refund.requestedAt
      completedAt := refund.completedAt
      createdAt := refund.createdAt
      updatedAt := refund.updatedAt }
    if 10 ^ 18 ≤ row.amount ∨ ¬ isVarchar 64 row.reasonCode ∨
        ¬ row.partnerReference.all (isVarchar 128) then .error (.database .dataError)
    else if row.valid then .ok row
    else .error (.database .integrityError)
  | _ => .error (.database .dataError)

/-- The two rows cannot both be stored: `refund_id` and `partner_reference` are unique. -/
def RefundRow.clashes (row other : RefundRow) : Bool :=
  row.refundId = other.refundId ||
    (row.partnerReference.isSome && row.partnerReference = other.partnerReference)

/-- The statuses that are summed. -/
def RefundStatus.counts : RefundStatus → Bool
  | .pending | .completed => true
  | .failed | .cancelled => false

/-- `SELECT COALESCE(SUM(amount), 0.00) … WHERE transaction_id = ? AND status IN ('PENDING',
'COMPLETED')`, in cents. -/
def refunded (transactionId : Nat) (rows : List RefundRow) : Nat :=
  (((Database.under RefundRow.transactionId transactionId rows).filter fun row =>
    row.status.counts).map RefundRow.amount).sum

/-! ## Statements -/

/-- The database, as the sessions see it. -/
abbrev RefundDatabase (Party : Type) := Database Party RefundRow Nat

/-- The statements of a session. -/
inductive Statement (Party : Type)
  /-- `SELECT … FROM payment_transactions WHERE transaction_id = ? FOR UPDATE`. -/
  | lockTransaction (party : Party) (transactionId : Nat)
  /-- The sum of the refunds of a transaction. -/
  | sumRefunds (party : Party) (transactionId : Nat)
  /-- `INSERT INTO refunds`. -/
  | insertRow (party : Party) (refund : Refund)
  /-- `COMMIT`. -/
  | commit (party : Party)
  /-- `ROLLBACK`. -/
  | rollback (party : Party)

/-- What a statement answers. -/
def Statement.Answer {Party : Type} : Statement Party → Type
  | .lockTransaction _ _ => Option PaymentTransaction
  | .sumRefunds _ _ => Decimal
  | _ => Unit

/-- The statements and their answers. -/
def statements (Party : Type) : Signature := ⟨Statement Party, Statement.Answer⟩

/-- A part of the program of a session. -/
abbrev Action (Party : Type) := Program (statements Party) RefundError

/-- A choice of the environment: the statement fails, and if it is a commit, it may have taken
place. -/
structure Choice where
  /-- The failure. -/
  fault : Option DatabaseError := none
  /-- The commit took place. -/
  applied : Bool := false

section

variable {Party : Type} [DecidableEq Party] (payments : Nat → Option PaymentTransaction)

/-- A statement inside a transaction: after a failure every statement fails, and a failure leaves
the transaction to be rolled back. -/
def execute {α : Type} (database : RefundDatabase Party) (party : Party) (choice : Choice)
    (statement : Except RefundError α × RefundDatabase Party) :
    Except RefundError α × RefundDatabase Party :=
  if database.aborted party then (.error (.database .inFailedSqlTransaction), database)
  else match choice.fault with
    | some error => (.error (.database error), database.abort party)
    | none => statement

/-- A statement that takes place or fails. -/
def act : (statement : Statement Party) → Choice → RefundDatabase Party →
    Except RefundError statement.Answer × RefundDatabase Party
  | .lockTransaction party transactionId, choice, database =>
    execute database party choice (match payments transactionId with
      | none => (.ok none, database)
      | some transaction => (.ok (some transaction), database.acquire party transactionId))
  | .sumRefunds party transactionId, choice, database =>
    execute database party choice
      (.ok (Decimal.ofCents (refunded transactionId (database.visible party))), database)
  | .insertRow party refund, choice, database =>
    execute database party choice (match refund.row with
      | .error error => (.error error, database.abort party)
      | .ok row =>
        if (database.visible party).any row.clashes then
          (.error (.database .integrityError), database.abort party)
        else (.ok (), database.insert party row))
  | .commit party, choice, database =>
    match choice.fault with
    | none => (.ok (), database.commit party)
    | some error => (.error (.database error),
        if choice.applied then database.commit party else database.rollback party)
  | .rollback party, _, database => (.ok (), database.rollback party)

/-- The statement need not wait: nobody else holds the lock, or has an uncommitted row that
clashes. A statement that fails waits no longer. -/
def ready : Statement Party → Choice → RefundDatabase Party → Bool
  | .lockTransaction party transactionId, choice, database =>
    choice.fault.isSome || database.aborted party || database.obtainable party transactionId
  | .insertRow party refund, choice, database =>
    choice.fault.isSome || database.aborted party ||
      database.pending.all fun entry => entry.1 = party ||
        match refund.row with
        | .ok row => !row.clashes entry.2
        | .error _ => true
  | _, _, _ => true

/-- The database under its statements. -/
def machine : Machine (statements Party) RefundError (RefundDatabase Party) Choice where
  act := act payments

/-- One statement. -/
def perform (statement : Statement Party) : Action Party statement.Answer :=
  Program.request (S := statements Party) statement

/-- Raise a `RefundRuleViolation`. -/
def violation {α : Type} (message : PyStr) : Action Party α :=
  .raised (.refundRuleViolation message)

/-- `existing_total + refund.amount > transaction_amount`. -/
def exceeds (existing : Decimal) (amount : DecimalValue) (limit : Nat) :
    Except RefundError Bool :=
  match amount with
  | .finite value =>
    let total := existing.add value
    -- the largest exponent of the default context
    if 999999 < total.exponent + total.digitCount - 1 then .error .overflow
    else .ok ((Decimal.ofCents limit).less total)
  | .infinity negative => .ok !negative
  | .nan => .error .invalidOperation

/-- `PaymentRepository.insert_refund`. -/
def insertRefund (party : Party) (refund : Refund) : Action Party Unit := do
  match ← perform (.lockTransaction party refund.transactionId) with
  | none => violation "original transaction does not exist"
  | some transaction =>
    if PaymentTransaction.status transaction ≠ .completed then
      violation "only completed transactions can be refunded"
    else if PaymentTransaction.currency transaction ≠ refund.currency then
      violation "refund currency must match the original transaction"
    else
      let existing ← perform (.sumRefunds party refund.transactionId)
      let tooMuch ← Program.ofExcept
        (exceeds existing refund.amount (PaymentTransaction.amount transaction))
      if tooMuch then violation "total pending and completed refunds exceed transaction amount"
      else perform (.insertRow party refund)

/-- What a session does: a call, or the end of its transaction. -/
inductive Activity
  | insertRefund (refund : Refund)
  | commit
  | rollback

/-- The program of an activity. -/
def Activity.code (party : Party) : Activity → Action Party Unit
  | .insertRefund refund => Payments.insertRefund party refund
  | .commit => perform (.commit party)
  | .rollback => perform (.rollback party)

/-- The sessions on a database. -/
def sessions (Party : Type) [DecidableEq Party] (payments : Nat → Option PaymentTransaction) :
    Parallel (statements Party) RefundError Unit (RefundDatabase Party) Choice Party Activity :=
  ⟨machine payments, ready, Activity.code⟩

end

end Payments

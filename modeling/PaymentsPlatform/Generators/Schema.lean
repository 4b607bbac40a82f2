import PaymentsPlatform.Generators.Generator

/-!
# The OLTP constraints

The keys, references and checks of the tables of `001_create_database_objects.sql` and the codes of
`002_create_reference_data.sql`, as conditions on the rows of a dataset. A column of the type
`TIMESTAMPTZ` holds a moment, so checks compare the moments at which clocks of the zone show the
readings of the rows. `Loads` is all of them together with what a dataset says about the lifecycle
of transactions.
-/

namespace Generators

open Python Payments

/-! ## Columns -/

/-- The moment of a reading, in microseconds of UTC. -/
def utc (zone : Zone) (time : Nat) : Int := time - zone time

/-- `earlier <= later` of two columns. -/
def Ordered (zone : Zone) (earlier later : Nat) : Prop := utc zone earlier ≤ utc zone later

instance (zone : Zone) (earlier later : Nat) : Decidable (Ordered zone earlier later) :=
  inferInstanceAs (Decidable (_ ≤ _))

/-- A capital letter. -/
def isCapital (code : Nat) : Bool := 65 ≤ code && code ≤ 90

/-- `^[A-Z]{2}$`. -/
def isCountryCode (text : PyStr) : Bool := text.length = 2 && text.all isCapital

/-- `^[A-Z][A-Z0-9_-]*$`. -/
def isMerchantCode : PyStr → Bool
  | [] => false
  | first :: rest => isCapital first &&
      rest.all fun code => isCapital code || Json.isDigit code || code = 95 || code = 45

/-- `POSITION('@' IN email) > 1`. -/
def hasInnerAt (text : PyStr) : Bool := text.head? ≠ some 64 && text.contains 64

/-- A value of a `NUMERIC(18, 2)` column that loses nothing there. -/
def isMoney (value : Decimal) : Bool := value.exponent = -2 && value.coefficient < 10 ^ 18

/-- `currencies`. -/
def currencyCodes : List PyStr := ["USD", "EUR", "GBP", "SGD", "VND"]

/-- `payment_channels`. -/
def paymentChannelCodes : List PyStr := ["CARD", "BANK_TRANSFER", "QR", "WALLET"]

/-- `merchant_categories`. -/
def merchantCategoryCodes : List PyStr := ["4814", "5411", "5732", "5812", "6012"]

/-! ## Rows -/

/-- The checks of `customers`. -/
structure CustomerValid (zone : Zone) (row : Customer) : Prop where
  /-- `external_customer_ref VARCHAR(64)`. -/
  reference : isVarchar 64 row.externalCustomerRef = true
  /-- `full_name VARCHAR(200)`. -/
  name : isVarchar 200 row.fullName = true
  /-- `email VARCHAR(320)` and `customers_email_shape`. -/
  email : ∀ email ∈ row.email, isVarchar 320 email = true ∧ hasInnerAt email = true
  /-- `customers_country_code_format`. -/
  country : isCountryCode row.countryCode = true
  /-- `customers_timestamps_ordered`. -/
  timestamps : Ordered zone row.createdAt row.updatedAt

/-- The checks of `accounts`. -/
structure AccountValid (zone : Zone) (row : Account) : Prop where
  /-- `account_number VARCHAR(34)`. -/
  number : isVarchar 34 row.accountNumber = true
  /-- `REFERENCES currencies`. -/
  currency : row.currency ∈ currencyCodes
  /-- `balance NUMERIC(18, 2)`. -/
  money : isMoney row.balance = true
  /-- `accounts_balance_non_negative`. -/
  balance : 0 ≤ row.balance.signed
  /-- `accounts_timestamps_ordered`. -/
  timestamps : Ordered zone row.createdAt row.updatedAt

/-- The checks of `merchants`. -/
structure MerchantValid (zone : Zone) (row : Merchant) : Prop where
  /-- `merchant_code VARCHAR(64)` and `merchants_code_format`. -/
  code : isVarchar 64 row.merchantCode = true ∧ isMerchantCode row.merchantCode = true
  /-- `external_reference VARCHAR(64)`. -/
  reference : isVarchar 64 row.externalReference = true
  /-- `merchant_name VARCHAR(200)`. -/
  name : isVarchar 200 row.merchantName = true
  /-- `REFERENCES merchant_categories`. -/
  category : row.categoryCode ∈ merchantCategoryCodes
  /-- `merchants_country_code_format`. -/
  country : isCountryCode row.countryCode = true
  /-- `REFERENCES currencies`. -/
  currency : row.settlementCurrency ∈ currencyCodes
  /-- `merchants_timestamps_ordered`. -/
  timestamps : Ordered zone row.createdAt row.updatedAt

/-- `payment_transactions_target_valid`. -/
def TargetValid (row : PaymentTransaction) : Prop :=
  (row.transactionType = .merchantPayment ∧ row.merchantId.isSome ∧
      row.destinationAccountId = none) ∨
    (row.transactionType = .accountTransfer ∧ row.merchantId = none ∧
      ∃ destination, row.destinationAccountId = some destination ∧ destination ≠ row.accountId)

/-- `payment_transactions_status_timestamps_valid`. -/
def StatusTimestampsValid (row : PaymentTransaction) : Prop :=
  match row.status with
  | .completed => row.completedAt.isSome ∧ row.failedAt = none
  | .failed => row.failedAt.isSome ∧ row.completedAt = none
  | _ => row.completedAt = none ∧ row.failedAt = none

/-- The checks of `payment_transactions`. -/
structure TransactionValid (zone : Zone) (row : PaymentTransaction) : Prop where
  /-- `REFERENCES payment_channels`. -/
  channel : row.paymentChannel ∈ paymentChannelCodes
  /-- `amount NUMERIC(18, 2)`. -/
  money : isMoney row.amount = true
  /-- `payment_transactions_amount_positive`. -/
  amount : 0 < row.amount.signed
  /-- `REFERENCES currencies`. -/
  currency : row.currency ∈ currencyCodes
  /-- `partner_reference VARCHAR(128)`. -/
  reference : ∀ reference ∈ row.partnerReference, isVarchar 128 reference = true
  /-- `idempotency_key VARCHAR(128)`. -/
  key : isVarchar 128 row.idempotencyKey = true
  /-- `failure_code VARCHAR(64)`. -/
  failure : ∀ code ∈ row.failureCode, isVarchar 64 code = true
  /-- `payment_transactions_target_valid`. -/
  target : TargetValid row
  /-- `payment_transactions_status_timestamps_valid`. -/
  status : StatusTimestampsValid row
  /-- `payment_transactions_completed_after_request`. -/
  completed : ∀ completed ∈ row.completedAt, Ordered zone row.requestedAt completed
  /-- `payment_transactions_failed_after_request`. -/
  failed : ∀ failed ∈ row.failedAt, Ordered zone row.requestedAt failed
  /-- `payment_transactions_timestamps_ordered`. -/
  timestamps : Ordered zone row.createdAt row.updatedAt

/-- `transaction_events_transition_valid`. -/
def TransitionValid (row : TransactionEvent) : Prop :=
  match row.eventType with
  | .paymentRequested => row.previousStatus = none ∧ row.newStatus = .pending
  | .paymentAuthorized => row.previousStatus = some .pending ∧ row.newStatus = .authorized
  | .paymentCompleted => (row.previousStatus = some .pending ∨
      row.previousStatus = some .authorized) ∧ row.newStatus = .completed
  | .paymentFailed => (row.previousStatus = some .pending ∨
      row.previousStatus = some .authorized) ∧ row.newStatus = .failed

/-- The checks of `transaction_events`. -/
structure EventValid (zone : Zone) (row : TransactionEvent) : Prop where
  /-- `event_version SMALLINT` and `transaction_events_version_positive`. -/
  version : 0 < row.eventVersion ∧ row.eventVersion < 2 ^ 15
  /-- `transaction_events_transition_valid`. -/
  transition : TransitionValid row
  /-- `source_system VARCHAR(64)`. -/
  source : isVarchar 64 row.sourceSystem = true
  /-- `transaction_events_producer_after_event`. -/
  producer : Ordered zone row.eventTime row.producerTime
  /-- `transaction_events_created_after_event`. -/
  created : Ordered zone row.eventTime row.createdAt

/-- The checks of `refunds`. -/
structure RefundValid (zone : Zone) (row : Refund) : Prop where
  /-- `amount NUMERIC(18, 2)`. -/
  money : isMoney row.amount = true
  /-- `refunds_amount_positive`. -/
  amount : 0 < row.amount.signed
  /-- `REFERENCES currencies`. -/
  currency : row.currency ∈ currencyCodes
  /-- `reason_code VARCHAR(64)` and `refunds_reason_code_format`. -/
  reason : isVarchar 64 row.reasonCode = true ∧ isReasonCode row.reasonCode = true
  /-- `partner_reference VARCHAR(128)`. -/
  reference : ∀ reference ∈ row.partnerReference, isVarchar 128 reference = true
  /-- `refunds_status_timestamps_valid`. -/
  status : row.status = .completed ↔ row.completedAt.isSome = true
  /-- `refunds_completed_after_request`. -/
  completed : ∀ completed ∈ row.completedAt, Ordered zone row.requestedAt completed
  /-- `refunds_timestamps_ordered`. -/
  timestamps : Ordered zone row.createdAt row.updatedAt

/-! ## The dataset -/

/-- The events of a transaction, in the order of the dataset. -/
def GeneratedDataset.eventsOf (dataset : GeneratedDataset) (transaction : PaymentTransaction) :
    List TransactionEvent :=
  dataset.events.filter fun event => event.transactionId = transaction.transactionId

/-- The events of a transaction describe its lifecycle. -/
structure Lifecycle (zone : Zone) (status : TransactionStatus) (events : List TransactionEvent) :
    Prop where
  /-- The versions count from one. -/
  versions : events.map (·.eventVersion) = (List.range events.length).map (· + 1)
  /-- Each event continues the status of the one before, the first one none. -/
  chained : events.map (·.previousStatus) =
    (none :: events.map fun event => some event.newStatus).take events.length
  /-- Times do not decrease. -/
  times : (events.map (·.eventTime)).Pairwise (Ordered zone)
  /-- The last event has the status of the transaction. -/
  last : (events.getLast?.map (·.newStatus)) = some status

/-- What a refund has to do with its transaction. -/
structure RefundsTransaction (refund : Refund) (transaction : PaymentTransaction) : Prop where
  /-- The transaction is completed. -/
  completed : transaction.status = .completed
  /-- The refund is at most the amount. -/
  amount : refund.amount.signed ≤ transaction.amount.signed
  /-- The currency is the same. -/
  currency : refund.currency = transaction.currency

/-- The dataset satisfies the constraints of the tables and describes lifecycles. -/
structure Loads (zone : Zone) (dataset : GeneratedDataset) : Prop where
  /-- The checks of `customers`. -/
  customers : ∀ row ∈ dataset.customers, CustomerValid zone row
  /-- The keys of `customers`. -/
  customerKeys : (dataset.customers.map (·.customerId)).Nodup ∧
    (dataset.customers.map (·.externalCustomerRef)).Nodup
  /-- The checks of `accounts`. -/
  accounts : ∀ row ∈ dataset.accounts, AccountValid zone row
  /-- The keys of `accounts`. -/
  accountKeys : (dataset.accounts.map (·.accountId)).Nodup ∧
    (dataset.accounts.map (·.accountNumber)).Nodup
  /-- `accounts.customer_id REFERENCES customers`. -/
  accountCustomers : ∀ row ∈ dataset.accounts,
    row.customerId ∈ dataset.customers.map (·.customerId)
  /-- The checks of `merchants`. -/
  merchants : ∀ row ∈ dataset.merchants, MerchantValid zone row
  /-- The keys of `merchants`. -/
  merchantKeys : (dataset.merchants.map (·.merchantId)).Nodup ∧
    (dataset.merchants.map (·.merchantCode)).Nodup ∧
    (dataset.merchants.map (·.externalReference)).Nodup
  /-- The checks of `payment_transactions`. -/
  transactions : ∀ row ∈ dataset.transactions, TransactionValid zone row
  /-- The keys of `payment_transactions`. -/
  transactionKeys : (dataset.transactions.map (·.transactionId)).Nodup ∧
    (dataset.transactions.filterMap (·.partnerReference)).Nodup ∧
    (dataset.transactions.map (·.idempotencyKey)).Nodup
  /-- The references of `payment_transactions`: the account is one of the customer, in the currency
  of the transaction, and so is the destination of a transfer, of another account. -/
  transactionReferences : ∀ row ∈ dataset.transactions,
    (∃ source ∈ dataset.accounts, source.accountId = row.accountId ∧
      source.customerId = row.customerId ∧ source.currency = row.currency) ∧
    row.customerId ∈ dataset.customers.map (·.customerId) ∧
    (∀ destinationId ∈ row.destinationAccountId, ∃ destination ∈ dataset.accounts,
      destination.accountId = destinationId ∧ destination.currency = row.currency) ∧
    ∀ merchantId ∈ row.merchantId, merchantId ∈ dataset.merchants.map (·.merchantId)
  /-- The checks of `transaction_events`. -/
  events : ∀ row ∈ dataset.events, EventValid zone row
  /-- The keys of `transaction_events`. -/
  eventKeys : (dataset.events.map (·.eventId)).Nodup ∧
    (dataset.events.map fun row => (row.transactionId, row.eventVersion)).Nodup
  /-- `transaction_events.transaction_id REFERENCES payment_transactions`. -/
  eventTransactions : ∀ row ∈ dataset.events,
    row.transactionId ∈ dataset.transactions.map (·.transactionId)
  /-- The events of every transaction. -/
  lifecycles : ∀ row ∈ dataset.transactions, Lifecycle zone row.status (dataset.eventsOf row)
  /-- The checks of `refunds`. -/
  refunds : ∀ row ∈ dataset.refunds, RefundValid zone row
  /-- The keys of `refunds`; a transaction has one refund at most. -/
  refundKeys : (dataset.refunds.map (·.refundId)).Nodup ∧
    (dataset.refunds.filterMap (·.partnerReference)).Nodup ∧
    (dataset.refunds.map (·.transactionId)).Nodup
  /-- Every refund has its transaction. -/
  refundTransactions : ∀ row ∈ dataset.refunds, ∃ transaction ∈ dataset.transactions,
    transaction.transactionId = row.transactionId ∧ RefundsTransaction row transaction

end Generators

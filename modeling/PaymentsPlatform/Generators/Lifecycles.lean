import PaymentsPlatform.Generators.Records

/-!
# Events and refunds of generated transactions

The events of a transaction are the ones of its status, in order, and a refund belongs to a
completed transaction. Their checks compare readings of the clock that are named here.
-/

namespace Generators

open Python Payments

section

variable {config : GeneratorConfig} {zone : Zone}

/-! ## Events -/

/-- When a transaction is authorized. -/
def authorizedTime (config : GeneratorConfig) (index : Nat) : Nat :=
  startTime config index + 2 * second

/-- The clock is not set forward between the readings the events of a transaction compare. -/
structure EventsOrdered (config : GeneratorConfig) (zone : Zone) (index : Nat) : Prop where
  /-- The request. -/
  requested : Ordered zone (startTime config index) (startTime config index + tenth)
  /-- The end. -/
  ended : index % 5 ≠ 0 → Ordered zone (startTime config index) (endTime config index) ∧
    Ordered zone (endTime config index) (endTime config index + tenth)
  /-- The authorization. -/
  authorized : 2 ≤ index % 5 → index % 2 = 0 →
    Ordered zone (startTime config index) (authorizedTime config index) ∧
      Ordered zone (authorizedTime config index) (authorizedTime config index + tenth) ∧
      Ordered zone (authorizedTime config index) (endTime config index)

/-- What is known of the events of a transaction. -/
structure EventsFacts (config : GeneratorConfig) (zone : Zone) (index : Nat)
    (events : List TransactionEvent) : Prop where
  /-- They belong to it. -/
  transaction : ∀ event ∈ events, event.transactionId = stableUuid config.seed "transaction" index
  /-- Their keys. -/
  ids : events.map (·.eventId) = (List.range events.length).map
    (stableUuid config.seed (py "transaction-event-" ++ natText index))
  /-- Their versions. -/
  versions : events.map (·.eventVersion) = (List.range events.length).map (· + 1)
  /-- They are few. -/
  few : events.length ≤ 3
  /-- Their checks. -/
  valid : ((∀ event ∈ events, EventValid zone event) ∧
    Lifecycle zone (transactionStatus index) events) ↔ EventsOrdered config zone index

/-- The checks of an event compare two readings, when its transition is allowed. -/
theorem eventRow_valid {transaction : PaymentTransaction} {index sequence : Nat}
    {eventType : EventType} {previousStatus : Option TransactionStatus}
    {newStatus : TransactionStatus} {eventTime producerTime : Nat} (few : sequence < 3)
    (allowed : TransitionValid (eventRow config transaction index sequence eventType previousStatus
      newStatus eventTime producerTime)) :
    EventValid zone (eventRow config transaction index sequence eventType previousStatus newStatus
      eventTime producerTime) ↔ Ordered zone eventTime producerTime := by
  constructor
  · exact fun valid => valid.producer
  · intro ordered
    have version : 0 < sequence + 1 ∧ sequence + 1 < 2 ^ 15 := by omega
    have source : isVarchar 64 (py "payments-generator") = true := by decide
    exact ⟨version, allowed, source, ordered, ordered⟩

/-- The first transition. -/
theorem requested_transition {transaction : PaymentTransaction}
    {index sequence eventTime producerTime : Nat} :
    TransitionValid (eventRow config transaction index sequence .paymentRequested none .pending
      eventTime producerTime) := ⟨rfl, rfl⟩

/-- The transition of an authorization. -/
theorem authorized_transition {transaction : PaymentTransaction}
    {index sequence eventTime producerTime : Nat} :
    TransitionValid (eventRow config transaction index sequence .paymentAuthorized (some .pending)
      .authorized eventTime producerTime) := ⟨rfl, rfl⟩

/-- One event. -/
theorem event_ok {transaction : PaymentTransaction} {index sequence : Nat} {eventType : EventType}
    {previousStatus : Option TransactionStatus} {newStatus : TransactionStatus} {eventTime : Nat}
    (inside : eventTime + tenth < calendarEnd) :
    event config transaction index sequence eventType previousStatus newStatus eventTime =
      .ok (eventRow config transaction index sequence eventType previousStatus newStatus eventTime
        (eventTime + tenth)) :=
  (bind_ok (plus_ok inside) _).trans rfl

/-- A transaction takes five seconds at least. -/
theorem startTime_add_le (config : GeneratorConfig) (index : Nat) {duration : Nat}
    (short : duration ≤ 5 * second) :
    startTime config index + duration ≤ endTime config index := by
  refine Nat.add_le_add_left (Nat.le_trans short ?_) _
  exact Nat.mul_le_mul_right _ (Nat.le_add_right _ _)

variable {accounts : List Account} {merchants : List Merchant} {transaction : PaymentTransaction}
  {index : Nat}

/-- The end of a transaction that ended. -/
theorem terminalTime_eq (facts : TransactionFacts config zone accounts merchants index transaction)
    (past : index % 5 ≠ 0) :
    transaction.completedAt.or transaction.failedAt = some (endTime config index) := by
  rw [facts.completed, facts.failed]
  by_cases high : 2 ≤ index % 5
  · rw [if_pos high]
    rfl
  · have one : index % 5 = 1 := by omega
    rw [if_neg high, if_pos one]
    rfl

/-- The last transition of a transaction that ended. -/
theorem terminal_transition
    (facts : TransactionFacts config zone accounts merchants index transaction)
    (past : index % 5 ≠ 0) {sequence : Nat} {previousStatus : Option TransactionStatus}
    (previous : previousStatus = some .pending ∨ previousStatus = some .authorized)
    (eventTime producerTime : Nat) :
    TransitionValid (eventRow config transaction index sequence
      (if transaction.status = .completed then .paymentCompleted else .paymentFailed)
      previousStatus transaction.status eventTime producerTime) := by
  by_cases completed : transaction.status = .completed
  · rw [if_pos completed]
    exact ⟨previous, completed⟩
  · rw [if_neg completed]
    refine ⟨previous, ?_⟩
    rw [facts.status] at completed ⊢
    rw [transactionStatus_completed] at completed
    change transactionStatus index = .failed
    rw [transactionStatus_failed]
    omega

/-- The events of a pending transaction. -/
theorem eventsForTransaction_pending
    (facts : TransactionFacts config zone accounts merchants index transaction)
    (calendar : InCalendar config) (inside : index < config.transactions.toNat)
    (pending : index % 5 = 0) :
    ∃ events, eventsForTransaction config transaction index = .ok events ∧
      EventsFacts config zone index events := by
  have late := calendar.transactions index inside
  have requested := facts.requested
  have gap := startTime_add_le config index (by decide : tenth ≤ 5 * second)
  have first : transaction.requestedAt + tenth < calendarEnd := by omega
  have status : transaction.status = .pending := by
    rw [facts.status]
    exact transactionStatus_pending.mpr pending
  refine ⟨_, (bind_ok (event_ok first) _).trans ((if_pos status).trans rfl), ?_⟩
  refine ⟨?_, rfl, rfl, (by simp), ?_⟩
  · intro event member
    rw [List.mem_singleton.mp member]
    exact facts.id
  · rw [requested]
    constructor
    · rintro ⟨checks, -⟩
      refine ⟨(checks _ (List.mem_singleton.mpr rfl)).producer, ?_, ?_⟩
      · exact fun past => absurd pending past
      · intro high
        omega
    · intro ordered
      refine ⟨?_, ⟨rfl, rfl, List.pairwise_singleton _ _, ?_⟩⟩
      · intro event member
        rw [List.mem_singleton.mp member]
        exact (eventRow_valid (by decide) requested_transition).mpr ordered.requested
      · rw [transactionStatus_pending.mpr pending]
        rfl

/-- The events of a transaction that ended without an authorization. -/
theorem eventsForTransaction_direct
    (facts : TransactionFacts config zone accounts merchants index transaction)
    (calendar : InCalendar config) (inside : index < config.transactions.toNat)
    (past : index % 5 ≠ 0) (direct : ¬ (2 ≤ index % 5 ∧ index % 2 = 0)) :
    ∃ events, eventsForTransaction config transaction index = .ok events ∧
      EventsFacts config zone index events := by
  have late := calendar.events index inside past
  have requested := facts.requested
  have gap := startTime_add_le config index (by decide : tenth ≤ 5 * second)
  have first : transaction.requestedAt + tenth < calendarEnd := by omega
  have status : transaction.status ≠ .pending := by
    rw [facts.status]
    exact fun pending => past (transactionStatus_pending.mp pending)
  have branch : ¬ (transaction.status = .completed ∧ index % 2 = 0) := by
    rw [facts.status, transactionStatus_completed]
    exact direct
  have computed : eventsForTransaction config transaction index = .ok
      [eventRow config transaction index 0 .paymentRequested none .pending
          transaction.requestedAt (transaction.requestedAt + tenth),
        eventRow config transaction index 1
          (if transaction.status = .completed then .paymentCompleted else .paymentFailed)
          (some .pending) transaction.status (endTime config index)
          (endTime config index + tenth)] := by
    refine (bind_ok (event_ok first) _).trans ((if_neg status).trans ?_)
    rw [terminalTime_eq facts past]
    exact (if_neg branch).trans ((bind_ok (event_ok late) _).trans rfl)
  refine ⟨_, computed, ?_, rfl, rfl, (by simp), ?_⟩
  · intro event member
    rcases List.mem_pair.mp member with rfl | rfl
    · exact facts.id
    · exact facts.id
  · rw [requested]
    constructor
    · rintro ⟨checks, cycle⟩
      refine ⟨(checks _ (List.mem_cons_self ..)).producer, fun _ => ⟨?_, ?_⟩, ?_⟩
      · exact (List.pairwise_cons.mp cycle.times).1 _ (List.mem_singleton.mpr rfl)
      · exact (checks _ (List.mem_cons_of_mem _ (List.mem_singleton.mpr rfl))).producer
      · intro high even
        exact absurd ⟨high, even⟩ direct
    · intro ordered
      obtain ⟨ascending, produced⟩ := ordered.ended past
      refine ⟨?_, ⟨rfl, rfl, ?_, ?_⟩⟩
      · intro event member
        rcases List.mem_pair.mp member with rfl | rfl
        · exact (eventRow_valid (by decide) requested_transition).mpr ordered.requested
        · exact (eventRow_valid (by decide)
            (terminal_transition facts past (Or.inl rfl) _ _)).mpr produced
      · exact List.pairwise_pair.mpr ascending
      · exact congrArg some facts.status

/-- The events of a transaction that was authorized and completed. -/
theorem eventsForTransaction_authorized
    (facts : TransactionFacts config zone accounts merchants index transaction)
    (calendar : InCalendar config) (inside : index < config.transactions.toNat)
    (high : 2 ≤ index % 5) (even : index % 2 = 0) :
    ∃ events, eventsForTransaction config transaction index = .ok events ∧
      EventsFacts config zone index events := by
  have past : index % 5 ≠ 0 := by omega
  have late := calendar.events index inside past
  have requested := facts.requested
  have gap := startTime_add_le config index (by decide : 2 * second + tenth ≤ 5 * second)
  have first : transaction.requestedAt + tenth < calendarEnd := by omega
  have second' : transaction.requestedAt + 2 * second < calendarEnd := by omega
  have third : transaction.requestedAt + 2 * second + tenth < calendarEnd := by omega
  have status : transaction.status ≠ .pending := by
    rw [facts.status]
    exact fun pending => past (transactionStatus_pending.mp pending)
  have branch : transaction.status = .completed ∧ index % 2 = 0 := by
    rw [facts.status, transactionStatus_completed]
    exact ⟨high, even⟩
  have computed : eventsForTransaction config transaction index = .ok
      [eventRow config transaction index 0 .paymentRequested none .pending
          transaction.requestedAt (transaction.requestedAt + tenth),
        eventRow config transaction index 1 .paymentAuthorized (some .pending) .authorized
          (transaction.requestedAt + 2 * second) (transaction.requestedAt + 2 * second + tenth),
        eventRow config transaction index 2
          (if transaction.status = .completed then .paymentCompleted else .paymentFailed)
          (some .authorized) transaction.status (endTime config index)
          (endTime config index + tenth)] := by
    refine (bind_ok (event_ok first) _).trans ((if_neg status).trans ?_)
    rw [terminalTime_eq facts past]
    exact (if_pos branch).trans ((bind_ok (plus_ok second') _).trans
      ((bind_ok (event_ok third) _).trans ((bind_ok (event_ok late) _).trans rfl)))
  refine ⟨_, computed, ?_, rfl, rfl, (by simp), ?_⟩
  · intro event member
    simp only [List.mem_cons, List.not_mem_nil, or_false] at member
    rcases member with rfl | rfl | rfl
    all_goals exact facts.id
  · rw [requested]
    constructor
    · rintro ⟨checks, cycle⟩
      obtain ⟨fromFirst, rest⟩ := List.pairwise_cons.mp cycle.times
      have toLast := (List.pairwise_cons.mp rest).1
      have one := checks _ (List.mem_cons_self ..)
      have two := checks _ (List.mem_cons_of_mem _ (List.mem_cons_self ..))
      have three := checks _ (List.mem_cons_of_mem _ (List.mem_cons_of_mem _
        (List.mem_singleton.mpr rfl)))
      refine ⟨one.producer, fun _ => ⟨?_, three.producer⟩, fun _ _ => ⟨?_, two.producer, ?_⟩⟩
      · exact fromFirst _ (List.mem_cons_of_mem _ (List.mem_singleton.mpr rfl))
      · exact fromFirst _ (List.mem_cons_self ..)
      · exact toLast _ (List.mem_singleton.mpr rfl)
    · intro ordered
      obtain ⟨ascending, produced⟩ := ordered.ended past
      obtain ⟨begins, published, ends⟩ := ordered.authorized high even
      refine ⟨?_, ⟨rfl, rfl, ?_, ?_⟩⟩
      · intro event member
        simp only [List.mem_cons, List.not_mem_nil, or_false] at member
        rcases member with rfl | rfl | rfl
        · exact (eventRow_valid (by decide) requested_transition).mpr ordered.requested
        · exact (eventRow_valid (by decide) authorized_transition).mpr published
        · exact (eventRow_valid (by decide)
            (terminal_transition facts past (Or.inr rfl) _ _)).mpr produced
      · refine List.pairwise_cons.mpr ⟨?_, List.pairwise_pair.mpr ends⟩
        intro time member
        rcases List.mem_pair.mp member with rfl | rfl
        · exact begins
        · exact ascending
      · exact congrArg some facts.status

/-- The events of a transaction. -/
theorem eventsForTransaction_ok
    (facts : TransactionFacts config zone accounts merchants index transaction)
    (calendar : InCalendar config) (inside : index < config.transactions.toNat) :
    ∃ events, eventsForTransaction config transaction index = .ok events ∧
      EventsFacts config zone index events := by
  by_cases pending : index % 5 = 0
  · exact eventsForTransaction_pending facts calendar inside pending
  · by_cases authorized : 2 ≤ index % 5 ∧ index % 2 = 0
    · exact eventsForTransaction_authorized facts calendar inside authorized.1 authorized.2
    · exact eventsForTransaction_direct facts calendar inside pending authorized

/-! ## Refunds -/

/-- When a refund is requested. -/
def refundTime (config : GeneratorConfig) (index : Nat) : Nat := endTime config index + 5 * minute

/-- What is known of a refund of a transaction. -/
structure RefundFacts (config : GeneratorConfig) (zone : Zone) (transaction : PaymentTransaction)
    (index refundIndex : Nat) (row : Refund) : Prop where
  /-- Its key. -/
  id : row.refundId = stableUuid config.seed "refund" refundIndex
  /-- Its transaction. -/
  belongs : row.transactionId = transaction.transactionId
  /-- Its reference. -/
  reference : row.partnerReference = if refundIndex % 2 = 0 then
    some (py "RPR-" ++ intText config.seed ++ py "-" ++ padded 8 refundIndex) else none
  /-- What it has to do with its transaction. -/
  refunds : RefundsTransaction row transaction
  /-- Its checks. -/
  valid : RefundValid zone row ↔ (refundIndex % 2 = 0 →
    Ordered zone (refundTime config index) (refundTime config index + 10 * second))

/-- The status of a refund. -/
theorem refundStatus_completed {refundIndex : Nat} :
    refundStatus refundIndex = .completed ↔ refundIndex % 2 = 0 := by
  unfold refundStatus
  split <;> simp [*]

/-- When a refund is completed. -/
theorem completionAt_ok {refundIndex requestedAt : Nat}
    (inside : refundIndex % 2 = 0 → requestedAt + 10 * second < calendarEnd) :
    completionAt (refundStatus refundIndex) requestedAt =
      .ok (if refundIndex % 2 = 0 then some (requestedAt + 10 * second) else none) := by
  by_cases even : refundIndex % 2 = 0
  · rw [completionAt, if_pos (refundStatus_completed.mpr even), plus_ok (inside even), if_pos even]
    rfl
  · rw [completionAt, if_neg (fun same => even (refundStatus_completed.mp same)), if_neg even]

/-- A refund. -/
theorem refundAt_ok
    (facts : TransactionFacts config zone accounts merchants index transaction)
    (currencies : ∀ account ∈ accounts, account.currency ∈ currencyCodes)
    (calendar : InCalendar config) (seed : (paddedInt 6 config.seed).length ≤ 22)
    (inside : index < config.transactions.toNat) (second' : index % 5 = 2) {refundIndex : Nat}
    (small : refundIndex < 10 ^ 10) (parity : refundIndex % 2 = 0 → index % 10 = 2) :
    ∃ row, refundAt config transaction refundIndex = .ok row ∧
      RefundFacts config zone transaction index refundIndex row := by
  have late := calendar.refunds index inside second'
  have short := Nat.le_trans (intText_length_le config.seed) seed
  have ended : transaction.completedAt.getD transaction.requestedAt = endTime config index := by
    rw [facts.completed, if_pos (by omega), Option.getD_some]
  have requested : transaction.completedAt.getD transaction.requestedAt + 5 * minute <
      calendarEnd := by
    rw [ended]
    exact late
  have time : transaction.completedAt.getD transaction.requestedAt + 5 * minute =
      refundTime config index := by
    rw [ended]
    rfl
  obtain ⟨cents, amount, low, high⟩ := facts.amount
  obtain ⟨quarter, share, more, less⟩ := refundAmount_ok low high
  have positive : ¬ (Decimal.ofCents quarter).signed ≤ 0 := by
    simp only [Decimal.signed, Decimal.ofCents]
    exact not_le.mpr (Int.natCast_pos.mpr more)
  have money : quarter < 10 ^ 18 := by omega
  have at' : refundAmount transaction.amount = .ok (Decimal.ofCents quarter) := by
    rw [amount]
    exact share
  have status : transaction.status = .completed := by
    rw [facts.status, transactionStatus_completed]
    omega
  have completed : completionAt (refundStatus refundIndex)
      (transaction.completedAt.getD transaction.requestedAt + 5 * minute) =
        .ok (if refundIndex % 2 = 0 then some (refundTime config index + 10 * second)
          else none) := by
    rw [time]
    refine completionAt_ok fun even => ?_
    exact calendar.completions index inside (parity even)
  refine ⟨_, (bind_ok (plus_ok requested) _).trans ((bind_ok completed _).trans
    ((bind_ok at' _).trans ((if_neg positive).trans rfl))), rfl, rfl, ?_, ?_, ?_⟩
  · simp only [refundStatus_completed]
  · refine ⟨status, ?_, rfl⟩
    rw [amount]
    simp only [Decimal.signed, Decimal.ofCents]
    exact Int.ofNat_le.mpr less
  · rw [time]
    constructor
    · intro valid even
      have compared := valid.timestamps
      simp only [even, if_true, Option.getD_some] at compared
      exact compared
    · intro ordered
      obtain ⟨source, listed, -, -, currency⟩ := facts.source
      have reason : isVarchar 64 (py "CUSTOMER_REQUEST") = true ∧
        isReasonCode (py "CUSTOMER_REQUEST") = true := by decide
      refine ⟨isMoney_ofCents money, not_le.mp positive, ?_, reason, ?_, ?_, ?_, ?_⟩
      · rw [← currency]
        exact currencies source listed
      · intro text member
        simp only [refundStatus_completed] at member
        split at member
        · cases member
          exact isVarchar_reference (by decide) (by decide) short small
        · cases member
      · simp only [refundStatus_completed]
        split <;> simp [*]
      · intro other member
        simp only at member
        split at member
        · rename_i even
          cases member
          exact ordered even
        · cases member
      · simp only
        split
        · rename_i even
          exact ordered even
        · exact ordered_refl _ _

end

end Generators

import PaymentsPlatform.Payments.Refunds

/-!
# Refunds never exceed the payment

The row lock covers the read, the sum and the insert. While a session holds it, the rows of the
transaction are its own and the committed ones, and nobody else adds to them; so the sum it read is
still the sum when it inserts, and when it commits. The invariant (`Sound`) bounds what every
session sees, so it says at once what a commit may publish.
-/

namespace Payments

open Python Effects Relational

section

variable {Party : Type} [DecidableEq Party]

/-- The row has the currency of its transaction, which is completed. -/
def Matches (payments : Nat → Option PaymentTransaction) (row : RefundRow) : Prop :=
  ∃ transaction, payments row.transactionId = some transaction ∧
    row.currency = transaction.currency ∧ transaction.status = .completed

/-- The first refunds of the transaction do not exceed it. -/
def WithinAtFirst (payments : Nat → Option PaymentTransaction) (initial : List RefundRow)
    (transactionId : Nat) (transaction : PaymentTransaction) : Prop :=
  payments transactionId = some transaction ∧
    refunded transactionId initial ≤ transaction.amount

/-- What holds at every moment of a database that started with some refunds. -/
structure Sound (payments : Nat → Option PaymentTransaction) (initial : List RefundRow)
    (database : RefundDatabase Party) : Prop where
  /-- Refunds are inserted under the lock of their transaction. -/
  guarded : database.Guarded RefundRow.transactionId
  /-- The committed refunds of a transaction do not exceed it. -/
  settled : ∀ transactionId transaction,
    WithinAtFirst payments initial transactionId transaction →
    refunded transactionId database.committed ≤ transaction.amount
  /-- Neither do those a session sees. -/
  within : ∀ party transactionId transaction,
    WithinAtFirst payments initial transactionId transaction →
    refunded transactionId (database.visible party) ≤ transaction.amount
  /-- A refund that was not there at first matches its transaction. -/
  matching : ∀ row, row ∈ database.committed ∨ (∃ party, row ∈ database.own party) →
    row ∈ initial ∨ Matches payments row

/-- The conditions of a session: its statements need not wait, the others leave it undisturbed, and
it keeps the invariant and leaves the others undisturbed. -/
def contract (payments : Nat → Option PaymentTransaction) (initial : List RefundRow)
    (party : Party) : Contract (statements Party) (RefundDatabase Party) Choice where
  admits statement choice database :=
    Sound payments initial database ∧ ready statement choice database = true
  rely := Database.Undisturbed RefundRow.transactionId party
  guarantee before after := Sound payments initial after ∧
    ∀ other, other ≠ party → Database.Undisturbed RefundRow.transactionId other before after

/-! ## Sums -/

/-- The sum of two lists. -/
theorem refunded_append (transactionId : Nat) (rows more : List RefundRow) :
    refunded transactionId (rows ++ more) =
      refunded transactionId rows + refunded transactionId more := by
  unfold refunded Database.under
  rw [List.filter_append, List.filter_append, List.map_append, List.sum_append]

/-- The sum depends on the rows of the transaction. -/
theorem refunded_congr {transactionId : Nat} {rows more : List RefundRow}
    (same : Database.under RefundRow.transactionId transactionId rows =
      Database.under RefundRow.transactionId transactionId more) :
    refunded transactionId rows = refunded transactionId more := by
  unfold refunded
  rw [same]

/-- Without rows of the transaction the sum is zero. -/
theorem refunded_of_none {transactionId : Nat} {rows : List RefundRow}
    (none : Database.under RefundRow.transactionId transactionId rows = []) :
    refunded transactionId rows = 0 := by
  unfold refunded
  rw [none]
  rfl

/-- One row adds at most its amount, to the sum of its own transaction. -/
theorem refunded_single (transactionId : Nat) (row : RefundRow) :
    refunded transactionId [row] ≤ row.amount ∧
      (row.transactionId ≠ transactionId → refunded transactionId [row] = 0) := by
  by_cases here : row.transactionId = transactionId
  · refine ⟨?_, fun other => absurd here other⟩
    by_cases counted : row.status.counts = true
    · simp [refunded, Database.under, here, counted]
    · simp [refunded, Database.under, here, counted]
  · simp [refunded, Database.under, here]

/-- The row of a refund. -/
theorem row_of_stored {refund : Refund} {row : RefundRow} (stored : refund.row = .ok row) :
    ∃ value, refund.amount = .finite value ∧ row.amount = value.cents ∧
      row.transactionId = refund.transactionId ∧ row.currency = refund.currency := by
  unfold Refund.row at stored
  split at stored
  · rename_i value amount
    dsimp only at stored
    split at stored
    · cases stored
    · split at stored
      · obtain rfl := Except.ok.inj stored
        exact ⟨value, amount, rfl, rfl, rfl⟩
      · cases stored
  · cases stored

/-- The check before the insert leaves room for the rounded amount. -/
theorem room_of_exceeds {existing limit : Nat} {refund : Refund} {row : RefundRow}
    (fits : limit < 10 ^ 18)
    (checked : exceeds (Decimal.ofCents existing) refund.amount limit = .ok false)
    (stored : refund.row = .ok row) : existing + row.amount ≤ limit := by
  obtain ⟨value, amount, cents, -, -⟩ := row_of_stored stored
  have positive := refund.positive
  rw [amount] at checked positive
  have unsigned : value.negative = false := by
    simp only [above0, Bool.and_eq_true, Bool.not_eq_true'] at positive
    exact positive.1
  simp only [exceeds] at checked
  split at checked
  · cases checked
  · by_contra past
    rw [cents, not_le] at past
    have less := Decimal.less_add_of_cents unsigned fits past
    rw [less] at checked
    cases checked

/-! ## What one statement does -/

variable {payments : Nat → Option PaymentTransaction} {initial : List RefundRow}
  {database : RefundDatabase Party} {party : Party}

/-- A failed statement. -/
theorem Sound.abort (sound : Sound payments initial database) :
    Sound payments initial (database.abort party) :=
  ⟨sound.guarded, sound.settled, sound.within, sound.matching⟩

/-- A lock that nobody else holds. -/
theorem Sound.acquire (sound : Sound payments initial database) {transactionId : Nat}
    (free : database.obtainable party transactionId = true) :
    Sound payments initial (database.acquire party transactionId) :=
  ⟨(Database.behaves_acquire free).guarded sound.guarded, sound.settled, sound.within,
    sound.matching⟩

/-- A row of the transaction whose lock the session holds, for which there is room. -/
theorem Sound.insert (sound : Sound payments initial database) {row : RefundRow}
    (held : database.owner row.transactionId = some party) (matching : Matches payments row)
    (room : ∀ transaction, payments row.transactionId = some transaction →
      refunded row.transactionId (database.visible party) + row.amount ≤ transaction.amount) :
    Sound payments initial (database.insert party row) where
  guarded := (Database.behaves_insert held).guarded sound.guarded
  settled := sound.settled
  within other transactionId transaction found := by
    have before := sound.within other transactionId transaction found
    have committed : (database.insert party row).committed = database.committed := rfl
    unfold Database.visible at before ⊢
    rw [Database.own_insert, committed]
    split
    · rename_i same
      subst same
      obtain ⟨most, elsewhere⟩ := refunded_single transactionId row
      rw [← List.append_assoc, refunded_append]
      by_cases here : row.transactionId = transactionId
      · subst here
        have bound := room transaction found.1
        unfold Database.visible at bound
        omega
      · rw [elsewhere here]
        exact before
    · exact before
  matching inserted member := by
    rcases member with committed | ⟨other, own⟩
    · exact sound.matching inserted (Or.inl committed)
    · rw [Database.own_insert] at own
      split at own
      · rename_i same
        rcases List.mem_append.mp own with old | new
        · exact sound.matching inserted (Or.inr ⟨other, old⟩)
        · rw [List.mem_singleton.mp new]
          exact Or.inr matching
      · exact sound.matching inserted (Or.inr ⟨other, own⟩)

/-- A rollback. -/
theorem Sound.rollback (sound : Sound payments initial database) :
    Sound payments initial (database.rollback party) where
  guarded := Database.behaves_rollback.guarded sound.guarded
  settled := sound.settled
  within other transactionId transaction found := by
    have before := sound.within other transactionId transaction found
    unfold Database.visible at before ⊢
    rw [Database.own_rollback]
    split
    · rw [List.append_nil]
      exact sound.settled transactionId transaction found
    · exact before
  matching row member := by
    rcases member with committed | ⟨other, own⟩
    · exact sound.matching row (Or.inl committed)
    · rw [Database.own_rollback] at own
      split at own
      · cases own
      · exact sound.matching row (Or.inr ⟨other, own⟩)

/-- A commit. -/
theorem Sound.commit (sound : Sound payments initial database) :
    Sound payments initial (database.commit party) := by
  by_cases failed : database.aborted party = true
  · have back : database.commit party = database.rollback party := by
      unfold Database.commit
      rw [if_pos failed]
    rw [back]
    exact sound.rollback
  have committed : (database.commit party).committed = database.visible party := by
    rw [Database.committed_commit, if_neg failed]
  refine ⟨Database.behaves_commit.guarded sound.guarded, ?_, ?_, ?_⟩
  · intro transactionId transaction found
    rw [committed]
    exact sound.within party transactionId transaction found
  · intro other transactionId transaction found
    have mine := sound.within party transactionId transaction found
    have theirs := sound.within other transactionId transaction found
    unfold Database.visible at theirs ⊢
    rw [committed, Database.own_commit]
    split
    · rw [List.append_nil]
      exact mine
    · rename_i different
      by_cases holds : database.owner transactionId = some party
      · -- the committing session holds the lock, so the other one has no row of the transaction
        have foreign : database.owner transactionId ≠ some other := fun held =>
          different (Option.some.inj (held.symm.trans holds))
        rw [refunded_append, refunded_of_none (Database.under_own sound.guarded foreign)]
        exact mine
      · have none := refunded_of_none (Database.under_own sound.guarded holds)
        unfold Database.visible
        rw [refunded_append] at theirs
        rw [refunded_append, refunded_append, none]
        exact theirs
  · intro row member
    rcases member with published | ⟨other, own⟩
    · rw [committed] at published
      rcases List.mem_append.mp published with old | new
      · exact sound.matching row (Or.inl old)
      · exact sound.matching row (Or.inr ⟨party, new⟩)
    · rw [Database.own_commit] at own
      split at own
      · cases own
      · exact sound.matching row (Or.inr ⟨other, own⟩)

/-- A statement inside a transaction fails, with or without failing the transaction, or takes
place. -/
theorem execute_cases {α : Type} (database : RefundDatabase Party) (party : Party)
    (choice : Choice) (statement : Except RefundError α × RefundDatabase Party) :
    (∃ error, execute database party choice statement = (.error error, database)) ∨
      (∃ error, execute database party choice statement =
        (.error error, database.abort party)) ∨
      (choice.fault = none ∧ database.aborted party = false ∧
        execute database party choice statement = statement) := by
  unfold execute
  split
  · exact Or.inl ⟨_, rfl⟩
  · rename_i live
    split
    · exact Or.inr (Or.inl ⟨_, rfl⟩)
    · rename_i fine
      exact Or.inr (Or.inr ⟨fine, by simpa using live, rfl⟩)

/-- A sound change that behaves is guaranteed. -/
theorem guarantee_of_behaves {after : RefundDatabase Party}
    (sound : Sound payments initial database) (sound' : Sound payments initial after)
    (behaves : Database.Behaves RefundRow.transactionId party database after) :
    (contract payments initial party).guarantee database after :=
  ⟨sound', behaves.others sound.guarded⟩

/-- Nothing happened. -/
theorem guarantee_refl (sound : Sound payments initial database) :
    (contract payments initial party).guarantee database database :=
  ⟨sound, fun _ _ => Database.Undisturbed.refl database⟩

/-- A statement that takes place or fails. -/
theorem meets_execute {statement : Statement Party} {party : Party}
    {post : statement.Answer → RefundDatabase Party → Prop}
    {body : RefundDatabase Party → Except RefundError statement.Answer × RefundDatabase Party}
    (executes : ∀ choice database,
      act payments statement choice database = execute database party choice (body database))
    (each : ∀ moved, Database.Undisturbed RefundRow.transactionId party database moved →
      Sound payments initial moved → ∀ choice : Choice, choice.fault = none →
      moved.aborted party = false → ready statement choice moved = true →
      (contract payments initial party).guarantee moved (body moved).2 ∧
        ∀ answer, (body moved).1 = .ok answer → post answer (body moved).2) :
    Meets (machine payments) (contract payments initial party) post (fun _ _ => True)
      (perform statement) database := by
  refine Meets.request ?_
  rintro moved others choice ⟨sound, free⟩
  have acted : (machine payments).act statement choice moved =
      execute moved party choice (body moved) := executes choice moved
  rcases execute_cases moved party choice (body moved) with ⟨error, failed⟩ | ⟨error, failed⟩ |
    ⟨fine, live, took⟩
  · rw [acted, failed]
    exact ⟨guarantee_refl sound, trivial⟩
  · rw [acted, failed]
    exact ⟨guarantee_of_behaves sound sound.abort Database.behaves_abort, trivial⟩
  · obtain ⟨kept, ends⟩ := each moved others sound choice fine live free
    rw [acted, took]
    refine ⟨kept, ?_⟩
    split
    · rename_i answer outcome
      exact ends answer outcome
    · trivial

/-- Lock a transaction. -/
theorem lock_meets {transactionId : Nat} :
    Meets (machine payments) (contract payments initial party)
      (fun (answer : Option PaymentTransaction) after => ∀ transaction,
        answer = some transaction → payments transactionId = some transaction ∧
          after.owner transactionId = some party)
      (fun _ _ => True) (perform (.lockTransaction party transactionId)) database := by
  refine meets_execute (fun _ _ => rfl) ?_
  intro moved others sound choice fine live free
  have obtainable : moved.obtainable party transactionId = true := by
    simpa [ready, fine, live] using free
  cases found : payments transactionId with
  | none =>
    refine ⟨guarantee_refl sound, ?_⟩
    rintro answer ⟨rfl⟩ transaction no
    cases no
  | some transaction =>
    refine ⟨guarantee_of_behaves sound (sound.acquire obtainable)
      (Database.behaves_acquire obtainable), ?_⟩
    rintro answer ⟨rfl⟩ other ⟨rfl⟩
    exact ⟨rfl, Function.update_self ..⟩

/-- Sum the refunds of a transaction whose lock the session holds. -/
theorem sum_meets {transactionId : Nat} (held : database.owner transactionId = some party) :
    Meets (machine payments) (contract payments initial party)
      (fun (answer : Decimal) after => after.owner transactionId = some party ∧
        answer = Decimal.ofCents (refunded transactionId (after.visible party)))
      (fun _ _ => True) (perform (.sumRefunds party transactionId)) database := by
  refine meets_execute (fun _ _ => rfl) ?_
  intro moved others sound choice fine live free
  refine ⟨guarantee_refl sound, ?_⟩
  rintro answer ⟨rfl⟩
  exact ⟨others.locks _ held, rfl⟩

/-- The sum of a transaction whose lock a session holds stays. -/
theorem refunded_undisturbed {transactionId : Nat} {moved : RefundDatabase Party}
    (others : Database.Undisturbed RefundRow.transactionId party database moved)
    (held : database.owner transactionId = some party) :
    refunded transactionId (moved.visible party) =
      refunded transactionId (database.visible party) := by
  unfold Database.visible
  rw [refunded_append, refunded_append, others.own, refunded_congr (others.rows _ held)]

/-- Insert a refund there is room for. -/
theorem insert_meets {refund : Refund} {transaction : PaymentTransaction}
    (found : payments refund.transactionId = some transaction)
    (held : database.owner refund.transactionId = some party)
    (completed : transaction.status = .completed)
    (currency : transaction.currency = refund.currency)
    (checked : exceeds (Decimal.ofCents
      (refunded refund.transactionId (database.visible party))) refund.amount
        transaction.amount = .ok false) :
    Meets (machine payments) (contract payments initial party) (fun _ _ => True)
      (fun _ _ => True) (perform (.insertRow party refund)) database := by
  refine meets_execute (fun _ _ => rfl) ?_
  intro moved others sound choice fine live free
  cases stored : refund.row with
  | error error =>
    exact ⟨guarantee_of_behaves sound sound.abort Database.behaves_abort, fun _ _ => trivial⟩
  | ok row =>
    obtain ⟨value, -, -, home, same⟩ := row_of_stored stored
    dsimp only
    split
    · exact ⟨guarantee_of_behaves sound sound.abort Database.behaves_abort, fun _ _ => trivial⟩
    · have held' : moved.owner row.transactionId = some party := by
        rw [home]
        exact others.locks _ held
      have room : ∀ other, payments row.transactionId = some other →
          refunded row.transactionId (moved.visible party) + row.amount ≤ other.amount := by
        intro other found'
        rw [home, found] at found'
        obtain rfl := Option.some.inj found'
        rw [home, refunded_undisturbed others held]
        exact room_of_exceeds transaction.fits checked stored
      have matching : Matches payments row :=
        ⟨transaction, home ▸ found, same.trans currency.symm, completed⟩
      exact ⟨guarantee_of_behaves sound (sound.insert held' matching room)
        (Database.behaves_insert held'), fun _ _ => trivial⟩

/-- `insert_refund`. -/
theorem insertRefund_meets (refund : Refund) :
    Meets (machine payments) (contract payments initial party) (fun _ _ => True)
      (fun _ _ => True) (insertRefund party refund) database := by
  refine Meets.bind (lock_meets.mono ?_ fun _ _ ended => ended)
  intro answer locked reads
  cases answer with
  | none => trivial
  | some transaction =>
    obtain ⟨found, held⟩ := reads transaction rfl
    dsimp only
    split
    · trivial
    rename_i completed
    split
    · trivial
    rename_i currency
    refine Meets.bind ((sum_meets held).mono ?_ fun _ _ ended => ended)
    rintro _ summed ⟨held', rfl⟩
    refine Meets.bind (Meets.ofExcept ?_ fun _ _ => trivial)
    intro tooMuch checked
    cases tooMuch with
    | true => trivial
    | false => exact insert_meets found held' (not_not.mp completed) (not_not.mp currency) checked

/-- Every activity of a session. -/
theorem activity_meets (activity : Activity) :
    Meets (machine payments) (contract payments initial party) (fun _ _ => True)
      (fun _ _ => True) (activity.code party) database := by
  cases activity with
  | insertRefund refund => exact insertRefund_meets refund
  | commit =>
    refine Meets.request ?_
    rintro moved - choice ⟨sound, -⟩
    have commits : (contract payments initial party).guarantee moved (moved.commit party) :=
      guarantee_of_behaves sound sound.commit Database.behaves_commit
    have back : (contract payments initial party).guarantee moved (moved.rollback party) :=
      guarantee_of_behaves sound sound.rollback Database.behaves_rollback
    cases failed : choice.fault with
    | none =>
      simp only [machine, act, failed]
      exact ⟨commits, trivial⟩
    | some error =>
      simp only [machine, act, failed]
      split
      · exact ⟨commits, trivial⟩
      · exact ⟨back, trivial⟩
  | rollback =>
    refine Meets.request ?_
    rintro moved - choice ⟨sound, -⟩
    exact ⟨guarantee_of_behaves sound sound.rollback Database.behaves_rollback, trivial⟩

/-! ## All or nothing -/

/-- What is stored of refunds, committed or not. -/
def inserted (database : RefundDatabase Party) : List RefundRow × List (Party × RefundRow) :=
  (database.committed, database.pending)

/-- A statement that stores nothing. -/
theorem stores_nothing {statement : Statement Party} {party : Party}
    {body : RefundDatabase Party → Except RefundError statement.Answer × RefundDatabase Party}
    (executes : ∀ choice database,
      act payments statement choice database = execute database party choice (body database))
    (still : ∀ database, inserted (body database).2 = inserted database) (choice : Choice)
    (database : RefundDatabase Party) :
    inserted ((machine payments).act statement choice database).2 = inserted database := by
  have acted : (machine payments).act statement choice database =
      execute database party choice (body database) := executes choice database
  rcases execute_cases database party choice (body database) with ⟨error, failed⟩ |
    ⟨error, failed⟩ | ⟨-, -, took⟩
  · rw [acted, failed]
  · rw [acted, failed]
    rfl
  · rw [acted, took]
    exact still database

/-- A program that goes on after a statement that stores nothing. -/
theorem after_statement {α : Type} {statement : Statement Party}
    {next : statement.Answer → Action Party α}
    (still : ∀ choice database,
      inserted ((machine payments).act statement choice database).2 = inserted database)
    (rest : ∀ answer database,
      AllOrNothing (machine payments) (contract payments initial party) inserted (next answer)
        database) :
    AllOrNothing (machine payments) (contract payments initial party) inserted
      ((perform statement).bind next) database := by
  refine AllOrNothing.after (Meets.request ?_)
  intro moved _ choice _
  refine ⟨still choice moved, ?_⟩
  split
  · exact rest _ _
  · trivial

/-- An `INSERT` that fails stores nothing. -/
theorem insertRow_failed {refund : Refund} (choice : Choice) (database : RefundDatabase Party)
    (problem : RefundError)
    (failed : ((machine payments).act (.insertRow party refund) choice database).1 =
      .error problem) :
    inserted ((machine payments).act (.insertRow party refund) choice database).2 =
      inserted database := by
  change (execute database party choice _).1 = .error problem at failed
  change inserted (execute database party choice _).2 = inserted database
  rcases execute_cases database party choice _ with ⟨error, same⟩ | ⟨error, same⟩ | ⟨-, -, took⟩
  · rw [same]
  · rw [same]
    rfl
  · rw [took] at failed ⊢
    cases stored : refund.row with
    | error error => rfl
    | ok row =>
      rw [stored] at failed
      dsimp only at failed ⊢
      split
      · rfl
      · rename_i fresh
        rw [if_neg fresh] at failed
        cases failed

/-- `insert_refund` inserts its refund or nothing. -/
theorem insertRefund_atomic (refund : Refund) :
    AllOrNothing (machine payments) (contract payments initial party) inserted
      (insertRefund party refund) database := by
  refine after_statement (stores_nothing (fun _ _ => rfl) ?_) ?_
  · intro database
    cases payments refund.transactionId with
    | none => rfl
    | some transaction => rfl
  rintro (_ | transaction) database
  · trivial
  dsimp only
  split
  · trivial
  split
  · trivial
  refine after_statement (stores_nothing (fun _ _ => rfl) fun _ => rfl) fun existing database => ?_
  cases checked : exceeds existing refund.amount transaction.amount with
  | error error => trivial
  | ok tooMuch =>
    cases tooMuch with
    | true => trivial
    | false =>
      exact AllOrNothing.last fun moved _ choice _ problem => insertRow_failed choice moved problem

/-! ## The main result -/

/-- The database after a list of events of sessions that were idle at first. -/
def databaseAfter (payments : Nat → Option PaymentTransaction) (initial : List RefundRow)
    (events : List (Party × Event Activity Choice)) :
    (Party → Option (Action Party Unit)) × RefundDatabase Party :=
  (sessions Party payments).run events (fun _ => none, Database.resting initial)

/-- What the refunds keep, whatever the sessions do. -/
structure SafeRefunds (payments : Nat → Option PaymentTransaction) (initial : List RefundRow)
    (events : List (Party × Event Activity Choice)) : Prop where
  /-- The committed refunds of a transaction do not exceed it, if they did not at first. -/
  limit : ∀ transactionId transaction, payments transactionId = some transaction →
    refunded transactionId initial ≤ transaction.amount →
    refunded transactionId (databaseAfter payments initial events).2.committed ≤
      transaction.amount
  /-- A refund that was not there at first has the currency of its transaction, which is
  completed. -/
  matching : ∀ row ∈ (databaseAfter payments initial events).2.committed,
    row ∈ initial ∨ Matches payments row
  /-- A call that raises has inserted nothing in any of its statements. -/
  failures : ∀ earlier party refund during problem,
    events = earlier ++ (party, .start (.insertRefund refund)) :: during →
    (∀ activity, (party, .start activity) ∉ during) →
    (databaseAfter payments initial events).1 party = some (.raised problem) →
    ∀ first choice rest, during = first ++ (party, .step choice) :: rest →
      inserted (databaseAfter payments initial
        (earlier ++ (party, .start (.insertRefund refund)) :: first ++
          [(party, .step choice)])).2 =
      inserted (databaseAfter payments initial
        (earlier ++ (party, .start (.insertRefund refund)) :: first)).2

/-- The sessions may rely on each other. -/
theorem sessions_compatible :
    Compatible (fun party : Party => contract payments initial party)
      (Sound payments initial) where
  refl _ := Database.Undisturbed.refl
  trans _ := Database.Undisturbed.trans
  others different kept := kept.2 _ (Ne.symm different)
  kept _ := fun kept _ => kept.1

/-- The refunds there were at first. -/
theorem sound_resting (payments : Nat → Option PaymentTransaction) (initial : List RefundRow) :
    Sound payments initial (Database.resting initial : RefundDatabase Party) where
  guarded entry member := by cases member
  settled transactionId transaction within := within.2
  within party transactionId transaction within := by
    have sees : (Database.resting initial : RefundDatabase Party).visible party = initial :=
      List.append_nil initial
    rw [sees]
    exact within.2
  matching row member := by
    rcases member with committed | ⟨party, own⟩
    · exact Or.inl committed
    · cases own

/-- Every session keeps its contract at every moment. -/
theorem sessions_standing (payments : Nat → Option PaymentTransaction) (initial : List RefundRow)
    (events : List (Party × Event Activity Choice)) :
    (sessions Party payments).Standing (contract payments initial) (Sound payments initial)
      (databaseAfter payments initial events) :=
  (sessions Party payments).standing_run sessions_compatible
    (fun _ _ _ _ sound free => ⟨sound, free⟩)
    (fun _ activity _ _ => activity_meets activity) events
    ((sessions Party payments).standing_idle (sound_resting payments initial))

/-- Refunds never exceed the payment: under every interleaving of the statements of any number of
sessions, whichever of them commit, roll back or fail. -/
theorem refunds_never_exceed (payments : Nat → Option PaymentTransaction)
    (initial : List RefundRow) (events : List (Party × Event Activity Choice)) :
    SafeRefunds payments initial events where
  limit transactionId transaction found within :=
    (sessions_standing payments initial events).sound.settled transactionId transaction
      ⟨found, within⟩
  matching row member :=
    (sessions_standing payments initial events).sound.matching row (Or.inl member)
  failures earlier party refund during problem parts going ended first choice rest split := by
    have standing := sessions_standing payments initial
      (earlier ++ [(party, .start (.insertRefund refund))])
    have whole : events = (earlier ++ [(party, .start (.insertRefund refund))]) ++ during := by
      rw [parts, List.append_assoc]
      rfl
    unfold databaseAfter at ended standing ⊢
    rw [whole, Parallel.run_append] at ended
    have running : ((sessions Party payments).run
        (earlier ++ [(party, .start (.insertRefund refund))])
        (fun _ => none, Database.resting initial)).1 party = some (insertRefund party refund) := by
      rw [Parallel.run_append]
      exact Function.update_self ..
    have still := (sessions Party payments).unchanged_of_raised sessions_compatible
      (fun _ _ _ _ sound free => ⟨sound, free⟩)
      (fun _ activity _ _ => activity_meets activity) rfl during standing going
      (fun _ _ _ _ admitted => admitted) running
      ⟨_, Database.Undisturbed.refl _, insertRefund_atomic refund⟩ ended first rest choice split
    rw [← Parallel.run_append, ← Parallel.run_append] at still
    simpa using still

end

/-- A refund of 60.00 of the first transaction. -/
def sixty (refundId : Nat) : Refund where
  refundId := refundId
  transactionId := 1
  amount := .finite ⟨false, 60, 0⟩
  currency := "VND"
  status := .pending
  reasonCode := "DUPLICATE"
  partnerReference := none
  requestedAt := ⟨0, by decide⟩
  completedAt := none
  createdAt := ⟨0, by decide⟩
  updatedAt := ⟨0, by decide⟩
  positive := by decide

/-- A completed transaction of 100.00. -/
def hundred : PaymentTransaction := ⟨10000, "VND", .completed, by decide⟩

/-- Two sessions refund 60.00 each, and the second one waits for the first. -/
def contention : List (Bool × Event Activity Choice) :=
  [(false, .start (.insertRefund (sixty 1))), (true, .start (.insertRefund (sixty 2))),
    (false, .step {}), (true, .step {}), (false, .step {}), (false, .step {}),
    (false, .start .commit), (false, .step {}), (true, .step {}), (true, .step {}),
    (true, .start .commit), (true, .step {})]

example : ((databaseAfter (fun _ => some hundred) [] contention).2.committed.map
    RefundRow.refundId) = [1] := by decide +kernel

end Payments

import Mathlib

/-!
# Sessions with row locks

A database under READ COMMITTED, as far as it matters to sessions that read, lock and insert rows:
a statement sees the committed rows and the uncommitted ones of its own session, a row lock belongs
to one session until its transaction ends, and the end of a transaction publishes or forgets its
rows and gives its locks back. When every row is inserted under its lock (`Guarded`), nobody else
changes the rows under a lock a session holds (`Undisturbed`).
-/

namespace Relational

/-- Committed rows, the rows of transactions that have not ended, who holds each lock, and the
sessions in which a statement has failed. -/
structure Database (Party Row Lock : Type) where
  /-- The committed rows. -/
  committed : List Row
  /-- The uncommitted rows, with their sessions. -/
  pending : List (Party × Row)
  /-- The holder of a lock. -/
  owner : Lock → Option Party
  /-- The transaction of the session can only be rolled back. -/
  aborted : Party → Bool

namespace Database

variable {Party Row Lock : Type} [DecidableEq Party] [DecidableEq Lock]

/-- Committed rows and idle sessions. -/
def resting (rows : List Row) : Database Party Row Lock :=
  ⟨rows, [], fun _ => none, fun _ => false⟩

/-- The uncommitted rows of a session. -/
def own (database : Database Party Row Lock) (party : Party) : List Row :=
  (database.pending.filter fun entry => entry.1 = party).map Prod.snd

/-- What a statement of a session reads. -/
def visible (database : Database Party Row Lock) (party : Party) : List Row :=
  database.committed ++ database.own party

/-- The session can take the lock without waiting. -/
def obtainable (database : Database Party Row Lock) (party : Party) (lock : Lock) : Bool :=
  (database.owner lock).all fun holder => holder = party

/-- Take a lock. -/
def acquire (database : Database Party Row Lock) (party : Party) (lock : Lock) :
    Database Party Row Lock :=
  { database with owner := Function.update database.owner lock (some party) }

/-- Insert a row. -/
def insert (database : Database Party Row Lock) (party : Party) (row : Row) :
    Database Party Row Lock :=
  { database with pending := database.pending ++ [(party, row)] }

/-- A statement of the session fails. -/
def abort (database : Database Party Row Lock) (party : Party) : Database Party Row Lock :=
  { database with aborted := Function.update database.aborted party true }

/-- End the transaction of a session and forget its rows. -/
def rollback (database : Database Party Row Lock) (party : Party) : Database Party Row Lock where
  committed := database.committed
  pending := database.pending.filter fun entry => entry.1 ≠ party
  owner lock := if database.owner lock = some party then none else database.owner lock
  aborted := Function.update database.aborted party false

/-- End the transaction of a session: its rows are committed, unless a statement failed. -/
def commit (database : Database Party Row Lock) (party : Party) : Database Party Row Lock :=
  if database.aborted party then database.rollback party
  else { database.rollback party with committed := database.visible party }

variable (lockOf : Row → Lock)

/-- The rows under a lock. -/
def under (lock : Lock) (rows : List Row) : List Row := rows.filter fun row => lockOf row = lock

/-- Every uncommitted row was inserted under its lock. -/
def Guarded (database : Database Party Row Lock) : Prop :=
  ∀ entry ∈ database.pending, database.owner (lockOf entry.2) = some entry.1

/-- What the others leave to a session: its rows, its locks, and the rows under its locks. -/
structure Undisturbed (party : Party) (before after : Database Party Row Lock) : Prop where
  /-- Its uncommitted rows. -/
  own : after.own party = before.own party
  /-- Its locks. -/
  locks : ∀ lock, before.owner lock = some party → after.owner lock = some party
  /-- The committed rows under them. -/
  rows : ∀ lock, before.owner lock = some party →
    under lockOf lock after.committed = under lockOf lock before.committed
  /-- Whether a statement failed. -/
  aborted : after.aborted party = before.aborted party

/-- What a session does: it keeps rows under their locks and leaves the others undisturbed. -/
structure Behaves (party : Party) (before after : Database Party Row Lock) : Prop where
  /-- Rows stay under their locks. -/
  guarded : Guarded lockOf before → Guarded lockOf after
  /-- The others are undisturbed. -/
  others : Guarded lockOf before → ∀ other, other ≠ party →
    Undisturbed lockOf other before after

variable {lockOf} {database : Database Party Row Lock} {party other : Party}

/-- Nothing happened. -/
theorem Undisturbed.refl (database : Database Party Row Lock) :
    Undisturbed lockOf party database database :=
  ⟨rfl, fun _ held => held, fun _ _ => rfl, rfl⟩

/-- What happened adds up. -/
theorem Undisturbed.trans {first second third : Database Party Row Lock}
    (one : Undisturbed lockOf party first second)
    (two : Undisturbed lockOf party second third) : Undisturbed lockOf party first third where
  own := two.own.trans one.own
  locks lock held := two.locks lock (one.locks lock held)
  rows lock held := (two.rows lock (one.locks lock held)).trans (one.rows lock held)
  aborted := two.aborted.trans one.aborted

omit [DecidableEq Lock] in
/-- The rows a session has inserted. -/
theorem mem_own {row : Row} : row ∈ database.own party ↔ (party, row) ∈ database.pending := by
  unfold own
  rw [List.mem_map]
  constructor
  · rintro ⟨⟨holder, inserted⟩, member, rfl⟩
    rw [List.mem_filter, decide_eq_true_eq] at member
    rw [← member.2]
    exact member.1
  · intro member
    exact ⟨(party, row), List.mem_filter.mpr ⟨member, by simp⟩, rfl⟩

omit [DecidableEq Lock] in
/-- A session reads its new row. -/
theorem own_insert (row : Row) :
    (database.insert party row).own other =
      if other = party then database.own other ++ [row] else database.own other := by
  unfold own insert
  rw [List.filter_append, List.map_append]
  split
  · rename_i same
    simp [same]
  · rename_i different
    have no : ¬ party = other := fun same => different same.symm
    simp [no]

omit [DecidableEq Lock] in
/-- After a rollback the session has no rows, and the others have theirs. -/
theorem own_rollback :
    (database.rollback party).own other =
      if other = party then [] else database.own other := by
  unfold own rollback
  rw [List.filter_filter]
  split
  · rename_i same
    rw [List.map_eq_nil_iff, List.filter_eq_nil_iff]
    intro entry _
    simp [same]
  · rename_i different
    congr 1
    refine List.filter_congr fun entry _ => ?_
    by_cases here : entry.1 = other
    · simp [here, different]
    · simp [here]

omit [DecidableEq Lock] in
/-- After a commit the session has no uncommitted rows, and the others have theirs. -/
theorem own_commit :
    (database.commit party).own other = if other = party then [] else database.own other := by
  unfold commit
  split
  · exact own_rollback
  · exact own_rollback

omit [DecidableEq Lock] in
/-- A commit publishes what the session sees, unless a statement failed. -/
theorem committed_commit :
    (database.commit party).committed =
      if database.aborted party then database.committed else database.visible party := by
  unfold commit
  split
  · rfl
  · rfl

/-- Nothing under a lock another session holds is among the rows of a session. -/
theorem under_own (guarded : Guarded lockOf database) {lock : Lock}
    (foreign : database.owner lock ≠ some party) :
    under lockOf lock (database.own party) = [] := by
  unfold under
  rw [List.filter_eq_nil_iff]
  intro row member here
  have held := guarded _ (mem_own.mp member)
  rw [of_decide_eq_true here] at held
  exact foreign held

/-- Reading and failing change no rows and no locks. -/
theorem behaves_abort : Behaves lockOf party database (database.abort party) where
  guarded guarded := guarded
  others _ _ different :=
    ⟨rfl, fun _ held => held, fun _ _ => rfl, Function.update_of_ne different ..⟩

/-- Taking a lock nobody else holds. -/
theorem behaves_acquire {lock : Lock} (free : database.obtainable party lock = true) :
    Behaves lockOf party database (database.acquire party lock) where
  guarded guarded entry member := by
    simp only [acquire]
    by_cases here : lockOf entry.2 = lock
    · rw [here, Function.update_self]
      have held := guarded entry member
      rw [here] at held
      have mine : entry.1 = party := by simpa [obtainable, held] using free
      rw [mine]
    · rw [Function.update_of_ne here]
      exact guarded entry member
  others guarded other different := by
    refine ⟨rfl, fun wanted held => ?_, fun _ _ => rfl, rfl⟩
    simp only [acquire]
    by_cases here : wanted = lock
    · rw [here] at held
      have mine : other = party := by simpa [obtainable, held] using free
      exact absurd mine different
    · rw [Function.update_of_ne here]
      exact held

/-- Inserting a row under its lock. -/
theorem behaves_insert {row : Row} (held : database.owner (lockOf row) = some party) :
    Behaves lockOf party database (database.insert party row) where
  guarded guarded entry member := by
    rcases List.mem_append.mp member with old | new
    · exact guarded entry old
    · rw [List.mem_singleton.mp new]
      exact held
  others guarded other different := by
    refine ⟨?_, fun _ held => held, fun _ _ => rfl, rfl⟩
    rw [own_insert, if_neg different]

/-- Rolling back. -/
theorem behaves_rollback : Behaves lockOf party database (database.rollback party) where
  guarded guarded entry member := by
    simp only [rollback] at member ⊢
    rw [List.mem_filter, decide_eq_true_eq] at member
    have held := guarded entry member.1
    rw [held, if_neg (fun same => member.2 (Option.some.inj same))]
  others guarded other different := by
    refine ⟨?_, fun lock held => ?_, fun _ _ => rfl, Function.update_of_ne different ..⟩
    · rw [own_rollback, if_neg different]
    · simp only [rollback]
      rw [held, if_neg (fun same => different (Option.some.inj same))]

/-- Committing. -/
theorem behaves_commit : Behaves lockOf party database (database.commit party) := by
  unfold commit
  split
  · exact behaves_rollback
  · have back : Behaves lockOf party database (database.rollback party) := behaves_rollback
    refine ⟨back.guarded, fun guarded other different => ?_⟩
    have left := back.others guarded other different
    refine ⟨left.own, left.locks, fun lock held => ?_, left.aborted⟩
    have foreign : database.owner lock ≠ some party := fun mine =>
      different (Option.some.inj (held.symm.trans mine))
    have none := under_own guarded foreign
    unfold under visible at *
    rw [List.filter_append, none, List.append_nil]

end Database

end Relational

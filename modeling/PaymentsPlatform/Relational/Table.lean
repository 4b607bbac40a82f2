import Mathlib

/-!
# Tables with a primary key

A table is a list of rows, in insertion order, in which no two rows have the same key. The
four statements that change one keep that: inserting a row whose key is absent, changing the
row of a key without changing the key, setting the row of a key, and deleting a key. Each is
described by what a lookup returns afterwards.
-/

namespace Relational

/-- Rows in insertion order, no two with the same key. -/
structure Table (Row Key : Type) (key : Row → Key) where
  /-- The rows. -/
  rows : List Row
  /-- The key identifies a row. -/
  nodup : (rows.map key).Nodup

namespace Table

variable {Row Key : Type} {key : Row → Key}

/-- The table without rows. -/
def empty : Table Row Key key := ⟨[], List.nodup_nil⟩

variable [DecidableEq Key]

/-- The row of a key. -/
def get (table : Table Row Key key) (wanted : Key) : Option Row :=
  table.rows.find? fun row => key row = wanted

/-- Rows with no key in common with the table. -/
theorem get_eq_none {table : Table Row Key key} {wanted : Key} :
    table.get wanted = none ↔ ∀ row ∈ table.rows, key row ≠ wanted := by
  simp [get, List.find?_eq_none]

/-- A lookup returns exactly the row that has the key. -/
theorem get_eq_some {table : Table Row Key key} {wanted : Key} {row : Row} :
    table.get wanted = some row ↔ row ∈ table.rows ∧ key row = wanted := by
  constructor
  · intro found
    have has := List.find?_some found
    exact ⟨List.mem_of_find?_eq_some found, by simpa using has⟩
  · rintro ⟨member, same⟩
    cases found : table.get wanted with
    | none => exact absurd same (get_eq_none.mp found row member)
    | some other =>
      have has : key other = wanted := by simpa using List.find?_some found
      have equal := List.inj_on_of_nodup_map table.nodup
        (List.mem_of_find?_eq_some found) member (has.trans same.symm)
      rw [equal]

/-- The row a lookup returns has the key. -/
theorem key_of_get {table : Table Row Key key} {wanted : Key} {row : Row}
    (found : table.get wanted = some row) : key row = wanted := (get_eq_some.mp found).2

/-- Append a row whose key is absent. -/
def insert (table : Table Row Key key) (row : Row) (absent : table.get (key row) = none) :
    Table Row Key key where
  rows := table.rows ++ [row]
  nodup := by
    rw [List.map_append, List.nodup_append]
    refine ⟨table.nodup, List.nodup_singleton _, ?_⟩
    intro left member right last
    obtain ⟨row', inside, rfl⟩ := List.mem_map.mp member
    rw [List.map_singleton, List.mem_singleton] at last
    rw [last]
    exact get_eq_none.mp absent row' inside

/-- Change the row of a key; the change keeps the key. -/
def update (table : Table Row Key key) (wanted : Key) (change : Row → Row)
    (keeps : ∀ row, key row = wanted → key (change row) = wanted) : Table Row Key key where
  rows := table.rows.map fun row => if key row = wanted then change row else row
  nodup := by
    have same : (table.rows.map fun row => if key row = wanted then change row else row).map key =
        table.rows.map key := by
      rw [List.map_map]
      refine List.map_congr_left fun row _ => ?_
      simp only [Function.comp]
      split
      · rename_i hit
        rw [keeps row hit, hit]
      · rfl
    rw [same]
    exact table.nodup

/-- Remove the row of a key. -/
def delete (table : Table Row Key key) (wanted : Key) : Table Row Key key where
  rows := table.rows.filter fun row => key row ≠ wanted
  nodup := table.nodup.sublist (List.filter_sublist.map key)

/-- Put a row under its key: in place when the key is there, else at the end. -/
def put (table : Table Row Key key) (row : Row) : Table Row Key key :=
  if absent : table.get (key row) = none then table.insert row absent
  else table.update (key row) (fun _ => row) fun _ _ => rfl

@[simp] theorem get_empty (wanted : Key) : (empty : Table Row Key key).get wanted = none := rfl

/-- After an insertion the new key has the new row. -/
theorem get_insert (table : Table Row Key key) (row : Row)
    (absent : table.get (key row) = none) (wanted : Key) :
    (table.insert row absent).get wanted =
      if wanted = key row then some row else table.get wanted := by
  split
  · rename_i same
    exact get_eq_some.mpr ⟨by simp [insert], same.symm⟩
  · rename_i other
    have different : ¬ key row = wanted := fun same => other same.symm
    simp [get, insert, List.find?_append, different]

/-- After an update the key has the changed row and every other key its old one. -/
theorem get_update (table : Table Row Key key) (target : Key) (change : Row → Row)
    (keeps : ∀ row, key row = target → key (change row) = target) (wanted : Key) :
    (table.update target change keeps).get wanted =
      if wanted = target then (table.get wanted).map change else table.get wanted := by
  unfold get update
  simp only
  induction table.rows with
  | nil => simp
  | cons row rows ih =>
    rw [List.map_cons, List.find?_cons, List.find?_cons, ih]
    by_cases hit : key row = target
    · by_cases same : wanted = target
      · subst same
        simp [hit, keeps row hit]
      · have different : ¬ target = wanted := fun equal => same equal.symm
        simp [hit, keeps row hit, same, different]
    · by_cases here : key row = wanted
      · subst here
        simp [hit]
      · simp [hit, here]

/-- After a deletion the key is absent and every other key has its old row. -/
theorem get_delete (table : Table Row Key key) (target wanted : Key) :
    (table.delete target).get wanted = if wanted = target then none else table.get wanted := by
  unfold get delete
  simp only
  induction table.rows with
  | nil => simp
  | cons row rows ih =>
    by_cases removed : key row = target
    · rw [List.filter_cons_of_neg (by simpa using removed), ih, List.find?_cons]
      by_cases same : wanted = target
      · simp [same]
      · have different : ¬ key row = wanted := fun equal => same (equal.symm.trans removed)
        simp [same, different]
    · rw [List.filter_cons_of_pos (by simpa using removed), List.find?_cons, List.find?_cons, ih]
      by_cases here : key row = wanted
      · subst here
        simp [removed]
      · simp [here]

/-- After a row was put, its key has it and every other key its old row. -/
theorem get_put (table : Table Row Key key) (row : Row) (wanted : Key) :
    (table.put row).get wanted = if wanted = key row then some row else table.get wanted := by
  unfold put
  split
  · exact get_insert _ _ _ _
  · rename_i present
    rw [get_update]
    split
    · rename_i same
      obtain ⟨old, found⟩ := Option.ne_none_iff_exists'.mp present
      rw [same, found]
      rfl
    · rfl

end Table

end Relational

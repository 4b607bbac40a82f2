import Mathlib

/-!
# First occurrences

A pass over a list that remembers the keys it has met keeps the first item of each key and sets
the others aside. Every key has one item, and of a sorted list the item that is kept is the least
of its key.
-/

namespace Collections

variable {α β γ : Type*} [DecidableEq β]

/-- The items whose key is met for the first time. -/
def firsts (key : α → β) (seen : List β) : List α → List α
  | [] => []
  | item :: items =>
    if key item ∈ seen then firsts key seen items
    else item :: firsts key (key item :: seen) items

/-- The items whose key has been met. -/
def repeats (key : α → β) (seen : List β) : List α → List α
  | [] => []
  | item :: items =>
    if key item ∈ seen then item :: repeats key seen items
    else repeats key (key item :: seen) items

/-- What is kept stands in the list, in its order. -/
theorem firsts_sublist (key : α → β) (seen : List β) (items : List α) :
    (firsts key seen items).Sublist items := by
  induction items generalizing seen with
  | nil => exact List.Sublist.refl []
  | cons item items ih =>
    rw [firsts]
    split
    · exact (ih seen).cons item
    · exact (ih (key item :: seen)).cons_cons item

/-- What is kept has a new key. -/
theorem firsts_fresh {key : α → β} {seen : List β} {items : List α} {item : α}
    (kept : item ∈ firsts key seen items) : key item ∉ seen := by
  induction items generalizing seen with
  | nil => cases kept
  | cons first items ih =>
    rw [firsts] at kept
    split at kept
    · exact ih kept
    · rename_i new
      rcases List.mem_cons.mp kept with rfl | later
      · exact new
      · exact fun old => ih later (List.mem_cons_of_mem _ old)

/-- The keys of what is kept are different. -/
theorem firsts_nodup (key : α → β) (seen : List β) (items : List α) :
    ((firsts key seen items).map key).Nodup := by
  induction items generalizing seen with
  | nil => exact List.nodup_nil
  | cons item items ih =>
    rw [firsts]
    split
    · exact ih seen
    · rw [List.map_cons, List.nodup_cons]
      refine ⟨?_, ih _⟩
      intro member
      obtain ⟨other, kept, same⟩ := List.mem_map.mp member
      exact firsts_fresh kept (same ▸ List.mem_cons_self ..)

/-- Every new key has an item that is kept. -/
theorem firsts_covers (key : α → β) (seen : List β) {items : List α} {item : α}
    (member : item ∈ items) :
    key item ∈ seen ∨ key item ∈ (firsts key seen items).map key := by
  induction items generalizing seen with
  | nil => cases member
  | cons first items ih =>
    rw [firsts]
    by_cases old : key first ∈ seen
    · rw [if_pos old]
      rcases List.mem_cons.mp member with rfl | later
      · exact Or.inl old
      · exact ih seen later
    · rw [if_neg old, List.map_cons]
      rcases List.mem_cons.mp member with rfl | later
      · exact Or.inr (List.mem_cons_self ..)
      · rcases ih (key first :: seen) later with known | kept
        · rcases List.mem_cons.mp known with same | known
          · exact Or.inr (same ▸ List.mem_cons_self ..)
          · exact Or.inl known
        · exact Or.inr (List.mem_cons_of_mem _ kept)

/-- Of a sorted list, what is kept is the least of its key. -/
theorem firsts_least {key : α → β} {seen : List β} {items : List α} {before : α → α → Prop}
    (reflexive : ∀ item, before item item) (sorted : items.Pairwise before) {item other : α}
    (kept : item ∈ firsts key seen items) (member : other ∈ items)
    (same : key other = key item) : before item other := by
  induction items generalizing seen with
  | nil => cases member
  | cons first items ih =>
    obtain ⟨least, sorted⟩ := List.pairwise_cons.mp sorted
    have fresh := firsts_fresh kept
    rw [firsts] at kept
    split at kept
    · rename_i old
      rcases List.mem_cons.mp member with rfl | later
      · exact absurd (same ▸ old) fresh
      · exact ih sorted kept later
    · rcases List.mem_cons.mp kept with rfl | kept
      · rcases List.mem_cons.mp member with rfl | later
        · exact reflexive _
        · exact least other later
      · rcases List.mem_cons.mp member with rfl | later
        · exact absurd (same ▸ List.mem_cons_self ..) (firsts_fresh kept)
        · exact ih sorted kept later

/-- What is kept depends on the items only through what their key is read from. -/
theorem firsts_map (image : α → γ) (key : γ → β) (seen : List β) (items : List α) :
    (firsts (fun item => key (image item)) seen items).map image =
      firsts key seen (items.map image) := by
  induction items generalizing seen with
  | nil => rfl
  | cons item items ih =>
    rw [firsts, List.map_cons, firsts]
    split
    · exact ih seen
    · rw [List.map_cons, ih]

end Collections

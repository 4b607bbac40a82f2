import Mathlib

/-!
# Lists related item by item

Two lists related item by item, a selection from one of them, and the corresponding selection from
the other. A selection is a `List.Subperm`: every occurrence is selected at most once.
-/

namespace Collections

variable {α β γ : Type*}

/-- What is read from the items is related to the items it is read from. -/
theorem filterMap_related (read : α → Option β) (items : List α) :
    List.Forall₂ (fun item image => read item = some image)
      (items.filter fun item => (read item).isSome) (items.filterMap read) := by
  induction items with
  | nil => exact .nil
  | cons item items ih =>
    cases found : read item with
    | none =>
      rw [List.filterMap_cons_none found, List.filter_cons_of_neg (by simp [found])]
      exact ih
    | some image =>
      rw [List.filterMap_cons_some found, List.filter_cons_of_pos (by simp [found])]
      exact .cons found ih

/-- Relations compose along lists. -/
theorem related_trans {first : α → β → Prop} {second : β → γ → Prop} {left : List α}
    {middle : List β} {right : List γ} (one : List.Forall₂ first left middle)
    (two : List.Forall₂ second middle right) :
    List.Forall₂ (fun item image => ∃ between, first item between ∧ second between image)
      left right := by
  induction one generalizing right with
  | nil =>
    cases two
    exact .nil
  | cons here _ ih =>
    cases two with
    | cons there rest => exact .cons ⟨_, here, there⟩ (ih rest)

/-- A part of one list, in order, corresponds to a part of the other. -/
theorem related_sublist {related : α → β → Prop} {items : List α} {images chosen : List β}
    (each : List.Forall₂ related items images) (inside : chosen.Sublist images) :
    ∃ sources : List α, sources.Sublist items ∧ List.Forall₂ related sources chosen := by
  induction inside generalizing items with
  | slnil =>
    cases each
    exact ⟨[], List.Sublist.refl _, .nil⟩
  | cons image _ ih =>
    cases each with
    | cons here rest =>
      obtain ⟨sources, part, found⟩ := ih rest
      exact ⟨sources, part.cons _, found⟩
  | cons_cons image _ ih =>
    cases each with
    | cons here rest =>
      obtain ⟨sources, part, found⟩ := ih rest
      exact ⟨_ :: sources, part.cons_cons _, .cons here found⟩

/-- A selection from one list corresponds to a selection from the other. -/
theorem related_subperm {related : α → β → Prop} {items : List α} {images chosen : List β}
    (each : List.Forall₂ related items images) (inside : chosen.Subperm images) :
    ∃ sources : List α, sources.Subperm items ∧ List.Forall₂ related sources chosen := by
  obtain ⟨arranged, permuted, part⟩ := inside
  obtain ⟨sources, within, found⟩ := related_sublist each part
  obtain ⟨others, back, same⟩ := List.perm_comp_forall₂ permuted.symm found.flip
  exact ⟨others, ⟨sources, same.symm, within⟩, back.flip⟩

end Collections

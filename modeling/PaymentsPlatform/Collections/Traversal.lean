import Mathlib

/-!
# Traversals that may fail

A loop that computes one item from each item of a list, and stops at the first error. When no item
raises, the results are related to the items one by one, and what is read from the results is what
is read from the items.
-/

namespace Collections

variable {α β γ ε : Type}

/-- A traversal in which every item succeeds returns items that are related to them. -/
theorem mapM_related {compute : α → Except ε β} {related : α → β → Prop} {items : List α}
    (each : ∀ item ∈ items, ∃ result, compute item = .ok result ∧ related item result) :
    ∃ results, items.mapM compute = .ok results ∧ List.Forall₂ related items results := by
  induction items with
  | nil => exact ⟨[], rfl, .nil⟩
  | cons item items ih =>
    obtain ⟨result, computed, here⟩ := each item (List.mem_cons_self ..)
    obtain ⟨results, rest, there⟩ := ih fun other member =>
      each other (List.mem_cons_of_mem _ member)
    refine ⟨result :: results, ?_, .cons here there⟩
    rw [List.mapM_cons, computed, rest]
    rfl

/-- Every result is related to an item. -/
theorem related_source {related : α → β → Prop} {items : List α} {results : List β}
    (each : List.Forall₂ related items results) {result : β} (member : result ∈ results) :
    ∃ item ∈ items, related item result := by
  induction each with
  | nil => cases member
  | cons here _ ih =>
    rcases List.mem_cons.mp member with rfl | later
    · exact ⟨_, List.mem_cons_self .., here⟩
    · obtain ⟨item, inside, found⟩ := ih later
      exact ⟨item, List.mem_cons_of_mem _ inside, found⟩

/-- Every item is related to a result. -/
theorem related_image {related : α → β → Prop} {items : List α} {results : List β}
    (each : List.Forall₂ related items results) {item : α} (member : item ∈ items) :
    ∃ result ∈ results, related item result :=
  related_source (List.Forall₂.flip each) member

/-- What is read from the results is read from the items. -/
theorem related_map {related : α → β → Prop} {items : List α} {results : List β}
    (each : List.Forall₂ related items results) {read : β → γ} {source : α → γ}
    (same : ∀ item result, related item result → read result = source item) :
    results.map read = items.map source := by
  induction each with
  | nil => rfl
  | cons here _ ih => rw [List.map_cons, List.map_cons, same _ _ here, ih]

/-- What some of the results hold is held by the items. -/
theorem related_filterMap {related : α → β → Prop} {items : List α} {results : List β}
    (each : List.Forall₂ related items results) {read : β → Option γ} {source : α → Option γ}
    (same : ∀ item result, related item result → read result = source item) :
    results.filterMap read = items.filterMap source := by
  induction each with
  | nil => rfl
  | cons here _ ih => rw [List.filterMap_cons, List.filterMap_cons, same _ _ here, ih]

/-- Related lists are related with the places of their items. -/
theorem related_zipIdx {related : α → β → Prop} {items : List α} {results : List β}
    (each : List.Forall₂ related items results) (start : Nat) :
    List.Forall₂ (fun item result => related item.1 result.1 ∧ item.2 = result.2)
      (items.zipIdx start) (results.zipIdx start) := by
  induction each generalizing start with
  | nil => exact .nil
  | cons here _ ih => exact .cons ⟨here, rfl⟩ (ih (start + 1))

/-- A result and its place: the item at the place is related to it. -/
theorem related_of_mem_zipIdx {related : Nat → β → Prop} {count : Nat} {results : List β}
    (each : List.Forall₂ related (List.range count) results) {result : β} {place : Nat}
    (member : (result, place) ∈ results.zipIdx) : place < count ∧ related place result := by
  obtain ⟨lengths, every⟩ := List.forall₂_iff_get.mp each
  have found := List.mem_zipIdx_iff_getElem?.mp member
  obtain ⟨inside, here⟩ := List.getElem?_eq_some_iff.mp found
  have before : place < (List.range count).length := by
    rw [lengths]
    exact inside
  have both := every place before inside
  simp only [List.get_eq_getElem, List.getElem_range] at both
  rw [List.length_range] at before
  simp only at here
  rw [here] at both
  exact ⟨before, both⟩

/-- Different results are related to different items. -/
theorem related_pairwise {related : α → β → Prop} {items : List α} {results : List β}
    (each : List.Forall₂ related items results) (distinct : items.Nodup) :
    results.Pairwise fun left right => ∃ one ∈ items, ∃ two ∈ items, one ≠ two ∧
      related one left ∧ related two right := by
  induction each with
  | nil => exact .nil
  | cons here rest ih =>
    obtain ⟨fresh, others⟩ := List.nodup_cons.mp distinct
    refine List.pairwise_cons.mpr ⟨?_, (ih others).imp ?_⟩
    · intro result member
      obtain ⟨item, inside, found⟩ := related_source rest member
      refine ⟨_, List.mem_cons_self .., item, List.mem_cons_of_mem _ inside, ?_, here, found⟩
      rintro rfl
      exact fresh inside
    · rintro left right ⟨one, first, two, second, different, found⟩
      exact ⟨one, List.mem_cons_of_mem _ first, two, List.mem_cons_of_mem _ second, different,
        found⟩

/-- Among lists whose items carry the key of their list, the items of a key are one list. -/
theorem filter_flatMap_of_key {α β γ : Type} [DecidableEq γ] {groups : List α}
    {members : α → List β} {key : α → γ} {keyOf : β → γ} (distinct : (groups.map key).Nodup)
    (carried : ∀ group ∈ groups, ∀ item ∈ members group, keyOf item = key group) {group : α}
    (inside : group ∈ groups) :
    (groups.flatMap members).filter (fun item => keyOf item = key group) = members group := by
  obtain ⟨before, after, rfl⟩ := List.append_of_mem inside
  rw [List.map_append, List.map_cons, List.nodup_middle] at distinct
  have fresh := (List.nodup_cons.mp distinct).1
  have others : ∀ other ∈ before ++ after,
      (members other).filter (fun item => keyOf item = key group) = [] := by
    intro other member
    refine List.filter_eq_nil_iff.mpr fun item listed => ?_
    have own := carried other (by
      rcases List.mem_append.mp member with left | right
      · exact List.mem_append_left _ left
      · exact List.mem_append_right _ (List.mem_cons_of_mem _ right)) item listed
    rw [own, decide_eq_true_eq]
    intro same
    rw [← List.map_append] at fresh
    exact fresh (same ▸ List.mem_map_of_mem member)
  have whole : (members group).filter (fun item => keyOf item = key group) = members group :=
    List.filter_eq_self.mpr fun item listed =>
      decide_eq_true (carried group (List.mem_append_right _ (List.mem_cons_self ..)) item listed)
  have empty : ∀ part : List α, (∀ other ∈ part, other ∈ before ++ after) →
      (part.flatMap members).filter (fun item => keyOf item = key group) = [] := by
    intro part within
    rw [List.filter_flatMap, List.flatMap_eq_nil_iff]
    exact fun other member => others other (within other member)
  rw [List.flatMap_append, List.flatMap_cons, List.filter_append, List.filter_append, whole,
    empty before fun _ => List.mem_append_left _, empty after fun _ => List.mem_append_right _,
    List.nil_append, List.append_nil]

/-- Keys that differ from item to item, read from the results. -/
theorem related_nodup {related : α → β → Prop} {items : List α} {results : List β}
    (each : List.Forall₂ related items results) (distinct : items.Nodup) {read : β → γ}
    {source : α → γ} (same : ∀ item result, related item result → read result = source item)
    (injective : ∀ one ∈ items, ∀ two ∈ items, source one = source two → one = two) :
    (results.map read).Nodup := by
  rw [related_map each same]
  exact distinct.map_on injective

end Collections

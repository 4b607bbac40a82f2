import Mathlib

/-!
# Replacing the occurrences of a word

Replacing from left to right cuts a list at the occurrences of a word, so that none of the pieces
has the word, and joins the pieces with a mask. A word that neither starts nor ends with an item of
the mask and does not contain the mask cannot overlap it, so in the result it can only lie inside a
piece.
-/

namespace Collections

variable {α : Type}

/-- A word that cannot overlap the mask. -/
structure Unglued (mask word : List α) : Prop where
  /-- It does not start inside the mask. -/
  start : ∀ item ∈ word.head?, item ∉ mask
  /-- It does not end inside the mask. -/
  ending : ∀ item ∈ word.getLast?, item ∉ mask
  /-- It does not cover the mask. -/
  around : ¬ mask <:+: word

/-- A word that cannot overlap the mask lies on one side of it. -/
theorem Unglued.infix_sides {mask word left right : List α} (unglued : Unglued mask word)
    (filled : word ≠ []) (found : word <:+: left ++ (mask ++ right)) :
    word <:+: left ∨ word <:+: right := by
  have first : ∀ {front : List α}, front ≠ [] → front <+: word → ¬ front <:+: mask := by
    intro front some_item begins inside
    obtain ⟨item, rest, rfl⟩ := List.exists_cons_of_ne_nil some_item
    obtain ⟨others, rfl⟩ := begins
    exact unglued.start item rfl (inside.subset (List.mem_cons_self ..))
  rcases List.infix_append_iff_ne_nil.mp found with here | there | ⟨front, back, some_front,
    some_back, rfl, -, crosses⟩
  · exact Or.inl here
  · rcases List.infix_append_iff_ne_nil.mp there with inside | later | ⟨front, back, some_front, -,
      rfl, crosses, -⟩
    · exact absurd inside (first filled (List.prefix_refl word))
    · exact Or.inr later
    · exact absurd crosses.isInfix (first some_front (List.prefix_append front back))
  · rcases List.prefix_or_prefix_of_prefix crosses (List.prefix_append mask right) with
      inside | covers
    · have last := List.getLast?_eq_some_getLast some_back
      refine absurd (inside.subset (List.getLast_mem some_back)) (unglued.ending _ ?_)
      rw [List.getLast?_append, last]
      rfl
    · exact absurd (covers.isInfix.trans List.infix_append_right) unglued.around

/-- A word that occurs has a first occurrence. -/
theorem exists_first {word list : List α} (found : word <:+: list) :
    ∃ front rest, list = front ++ (word ++ rest) ∧
      ∀ index < front.length, ¬ word <+: list.drop index := by
  induction list with
  | nil =>
    obtain rfl := List.infix_nil.mp found
    exact ⟨[], [], rfl, fun _ none => absurd none (Nat.not_lt_zero _)⟩
  | cons item list ih =>
    by_cases here : word <+: item :: list
    · obtain ⟨rest, shape⟩ := here
      exact ⟨[], rest, shape.symm, fun _ none => absurd none (Nat.not_lt_zero _)⟩
    · obtain ⟨front, rest, shape, first⟩ := ih ((List.infix_cons_iff.mp found).resolve_left here)
      refine ⟨item :: front, rest, by rw [shape]; rfl, fun index inside => ?_⟩
      cases index with
      | zero => exact here
      | succ index => exact first index (Nat.lt_of_succ_lt_succ inside)

/-- The items of a word that stands somewhere in a list. -/
theorem getElem?_of_prefix_drop {word list : List α} {index place : Nat}
    (begins : word <+: list.drop index) (inside : place < word.length) :
    word[place]? = list[index + place]? := by
  obtain ⟨rest, shape⟩ := begins
  rw [← List.getElem?_drop, ← shape, List.getElem?_append_left inside]

/-- The pieces of a list around the occurrences of a word, taken from left to right. -/
inductive Pieces (word : List α) : List α → List (List α) → Prop
  | last {list : List α} (clean : ¬ word <:+: list) : Pieces word list [list]
  | cut {piece rest : List α} {pieces : List (List α)} (clean : ¬ word <:+: piece)
      (later : Pieces word rest pieces) : Pieces word (piece ++ (word ++ rest)) (piece :: pieces)

/-- There is at least one piece. -/
theorem Pieces.ne_nil {word list : List α} {pieces : List (List α)}
    (cut : Pieces word list pieces) : pieces ≠ [] := by
  cases cut with
  | last clean => exact List.cons_ne_nil _ _
  | cut clean later => exact List.cons_ne_nil _ _

/-- No piece has the word. -/
theorem Pieces.clean {word list piece : List α} {pieces : List (List α)}
    (cut : Pieces word list pieces) (member : piece ∈ pieces) : ¬ word <:+: piece := by
  induction cut with
  | last clean => rwa [List.mem_singleton.mp member]
  | cut clean later ih =>
    rcases List.mem_cons.mp member with rfl | among
    · exact clean
    · exact ih among

/-- Every piece is part of the list. -/
theorem Pieces.part {word list piece : List α} {pieces : List (List α)}
    (cut : Pieces word list pieces) (member : piece ∈ pieces) : piece <:+: list := by
  induction cut with
  | last clean => rw [List.mem_singleton.mp member]
  | cut clean later ih =>
    rcases List.mem_cons.mp member with rfl | among
    · exact List.infix_append_left
    · exact (ih among).trans (List.infix_append_of_infix_right List.infix_append_right)

/-- The pieces joined with a mask. -/
def joined (mask : List α) : List (List α) → List α
  | [] => []
  | [piece] => piece
  | piece :: rest => piece ++ (mask ++ joined mask rest)

/-- Pieces before others. -/
theorem joined_cons {mask piece : List α} {pieces : List (List α)} (more : pieces ≠ []) :
    joined mask (piece :: pieces) = piece ++ (mask ++ joined mask pieces) := by
  obtain ⟨next, rest, rfl⟩ := List.exists_cons_of_ne_nil more
  rfl

/-- In joined pieces, a word that cannot overlap the mask lies in a piece. -/
theorem Unglued.infix_joined {mask word : List α} (unglued : Unglued mask word)
    (filled : word ≠ []) {pieces : List (List α)} (found : word <:+: joined mask pieces) :
    ∃ piece ∈ pieces, word <:+: piece := by
  induction pieces with
  | nil => exact absurd (List.infix_nil.mp found) filled
  | cons piece pieces ih =>
    by_cases last : pieces = []
    · subst last
      exact ⟨piece, List.mem_cons_self .., found⟩
    · rw [joined_cons last] at found
      rcases unglued.infix_sides filled found with here | later
      · exact ⟨piece, List.mem_cons_self .., here⟩
      · obtain ⟨other, member, inside⟩ := ih later
        exact ⟨other, List.mem_cons_of_mem _ member, inside⟩

variable [DecidableEq α]

/-- Replace the occurrences of a word, skipping the rest of one that was just replaced. -/
def replaceFrom (word mask : List α) : Nat → List α → List α
  | _, [] => []
  | skip + 1, _ :: rest => replaceFrom word mask skip rest
  | 0, item :: rest =>
    if word <+: item :: rest then mask ++ replaceFrom word mask (word.length - 1) rest
    else item :: replaceFrom word mask 0 rest

/-- Replace the occurrences of a word that is not empty, from left to right. -/
def replaceAll (word mask list : List α) : List α := replaceFrom word mask 0 list

variable {word mask : List α}

/-- Skipping is dropping. -/
theorem replaceFrom_skip (skip : Nat) (list : List α) :
    replaceFrom word mask skip list = replaceAll word mask (list.drop skip) := by
  induction skip generalizing list with
  | zero => rfl
  | succ skip ih =>
    cases list with
    | nil => rfl
    | cons item rest => exact ih rest

/-- Nothing is replaced in nothing. -/
theorem replaceAll_nil : replaceAll word mask [] = [] := rfl

/-- An occurrence at the front is replaced. -/
theorem replaceAll_append (filled : word ≠ []) (rest : List α) :
    replaceAll word mask (word ++ rest) = mask ++ replaceAll word mask rest := by
  obtain ⟨item, others, rfl⟩ := List.exists_cons_of_ne_nil filled
  rw [replaceAll, List.cons_append, replaceFrom, if_pos ⟨rest, rfl⟩, replaceFrom_skip,
    List.length_cons, Nat.add_sub_cancel, List.drop_left]

/-- An item that starts no occurrence stays. -/
theorem replaceAll_cons {item : α} {rest : List α} (other : ¬ word <+: item :: rest) :
    replaceAll word mask (item :: rest) = item :: replaceAll word mask rest := by
  rw [replaceAll, replaceFrom, if_neg other]
  rfl

/-- A list without the word stays as it is. -/
theorem replaceAll_clean {list : List α} (clean : ¬ word <:+: list) :
    replaceAll word mask list = list := by
  induction list with
  | nil => rfl
  | cons item rest ih =>
    rw [List.infix_cons_iff, not_or] at clean
    rw [replaceAll_cons clean.1, ih clean.2]

/-- The first occurrence is replaced, whatever stands before it. -/
theorem replaceAll_first (filled : word ≠ []) {front rest : List α}
    (first : ∀ index < front.length, ¬ word <+: (front ++ (word ++ rest)).drop index) :
    replaceAll word mask (front ++ (word ++ rest)) =
      front ++ (mask ++ replaceAll word mask rest) := by
  induction front with
  | nil => exact replaceAll_append filled rest
  | cons item front ih =>
    have here : ¬ word <+: item :: (front ++ (word ++ rest)) := first 0 (Nat.succ_pos _)
    have later := ih fun index inside => first (index + 1) (Nat.succ_lt_succ inside)
    rw [List.cons_append, replaceAll_cons here, later]
    rfl

/-- Replacing joins the pieces of a list. -/
theorem exists_pieces (filled : word ≠ []) (mask list : List α) :
    ∃ pieces, Pieces word list pieces ∧ replaceAll word mask list = joined mask pieces := by
  -- The length decreases behind an occurrence as well as behind a single item.
  induction total : list.length using Nat.strongRecOn generalizing list with
  | ind size ih =>
    cases list with
    | nil =>
      refine ⟨[[]], Pieces.last fun found => filled (List.infix_nil.mp found), rfl⟩
    | cons item rest =>
      by_cases here : word <+: item :: rest
      · obtain ⟨after, shape⟩ := here
        have shorter : after.length < size := by
          have positive := List.length_pos_of_ne_nil filled
          have parts := congrArg List.length shape
          rw [List.length_append] at parts
          omega
        obtain ⟨pieces, cut, same⟩ := ih after.length shorter after rfl
        refine ⟨[] :: pieces, ?_, ?_⟩
        · rw [← shape]
          exact Pieces.cut (fun found => filled (List.infix_nil.mp found)) cut
        · rw [← shape, replaceAll_append filled, same, joined_cons cut.ne_nil]
          rfl
      · have shorter : rest.length < size := by
          rw [← total, List.length_cons]
          omega
        obtain ⟨pieces, cut, same⟩ := ih rest.length shorter rest rfl
        rw [replaceAll_cons here, same]
        -- The item goes in front of the first piece.
        cases cut with
        | last clean =>
          refine ⟨[item :: rest], Pieces.last ?_, rfl⟩
          rw [List.infix_cons_iff, not_or]
          exact ⟨here, clean⟩
        | @cut piece after pieces clean later =>
          have fresh : ¬ word <:+: item :: piece := by
            rw [List.infix_cons_iff, not_or]
            refine ⟨fun begins => here (begins.trans ?_), clean⟩
            exact List.cons_prefix_cons.mpr ⟨rfl, List.prefix_append piece _⟩
          refine ⟨(item :: piece) :: pieces, ?_, ?_⟩
          · rw [← List.cons_append]
            exact Pieces.cut fresh later
          · rw [joined_cons later.ne_nil, joined_cons later.ne_nil]
            rfl

end Collections

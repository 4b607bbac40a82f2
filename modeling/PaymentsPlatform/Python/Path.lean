import PaymentsPlatform.Python.Iso

/-!
# Paths

A path is its segments joined by a separator. Joining and splitting are inverse on segments
that do not contain the separator, so the text of a path determines its segments.
-/

namespace Python

/-- A text has at least one part. -/
theorem splitChar_ne_nil (separator : Nat) (text : PyStr) : splitChar separator text ≠ [] := by
  induction text with
  | nil => simp [splitChar]
  | cons code rest ih =>
    rw [splitChar]
    split
    · simp
    · split <;> simp

/-- A text without the separator is its only part. -/
theorem splitChar_plain {separator : Nat} {text : PyStr} (absent : separator ∉ text) :
    splitChar separator text = [text] := by
  induction text with
  | nil => rfl
  | cons code rest ih =>
    rw [List.mem_cons, not_or] at absent
    rw [splitChar, if_neg fun same => absent.1 same.symm, ih absent.2]

/-- The part before the first separator. -/
theorem splitChar_append_cons {separator : Nat} {part : PyStr} (absent : separator ∉ part)
    (rest : PyStr) :
    splitChar separator (part ++ separator :: rest) = part :: splitChar separator rest := by
  induction part with
  | nil => rw [List.nil_append, splitChar, if_pos rfl]
  | cons code part ih =>
    rw [List.mem_cons, not_or] at absent
    rw [List.cons_append, splitChar, if_neg fun same => absent.1 same.symm, ih absent.2]

/-- A path of several segments. -/
theorem intercalate_cons {separator : Nat} {first : PyStr} {rest : List PyStr}
    (more : rest ≠ []) :
    List.intercalate [separator] (first :: rest) =
      first ++ separator :: List.intercalate [separator] rest := by
  obtain ⟨second, others, rfl⟩ := List.exists_cons_of_ne_nil more
  rfl

/-- The characters of a path. -/
theorem mem_intercalate {separator code : Nat} {parts : List PyStr}
    (member : code ∈ List.intercalate [separator] parts) :
    code = separator ∨ ∃ part ∈ parts, code ∈ part := by
  induction parts with
  | nil => simp [List.intercalate] at member
  | cons first rest ih =>
    by_cases last : rest = []
    · subst last
      exact Or.inr ⟨first, List.mem_cons_self .., by simpa [List.intercalate] using member⟩
    · rw [intercalate_cons last, List.mem_append, List.mem_cons] at member
      obtain here | rfl | later := member
      · exact Or.inr ⟨first, List.mem_cons_self .., here⟩
      · exact Or.inl rfl
      · obtain same | ⟨part, inside, found⟩ := ih later
        · exact Or.inl same
        · exact Or.inr ⟨part, List.mem_cons_of_mem _ inside, found⟩

/-- The characters of a segment are in the path. -/
theorem mem_intercalate_part {separator code : Nat} {parts : List PyStr} {part : PyStr}
    (member : part ∈ parts) (found : code ∈ part) :
    code ∈ List.intercalate [separator] parts := by
  induction parts with
  | nil => cases member
  | cons first rest ih =>
    by_cases last : rest = []
    · subst last
      rw [List.mem_singleton.mp member] at found
      simpa [List.intercalate] using found
    · rw [intercalate_cons last, List.mem_append, List.mem_cons]
      rcases List.mem_cons.mp member with rfl | later
      · exact Or.inl found
      · exact Or.inr (Or.inr (ih later))

/-- Splitting undoes joining. -/
theorem splitChar_intercalate {separator : Nat} {parts : List PyStr} (some_part : parts ≠ [])
    (plain : ∀ part ∈ parts, separator ∉ part) :
    splitChar separator (List.intercalate [separator] parts) = parts := by
  induction parts with
  | nil => exact absurd rfl some_part
  | cons first rest ih =>
    have here := plain first (List.mem_cons_self ..)
    by_cases last : rest = []
    · subst last
      have only : List.intercalate [separator] [first] = first := by simp [List.intercalate]
      rw [only, splitChar_plain here]
    · rw [intercalate_cons last, splitChar_append_cons here,
        ih last fun part member => plain part (List.mem_cons_of_mem _ member)]

/-- Joining undoes splitting. -/
theorem intercalate_splitChar (separator : Nat) (text : PyStr) :
    List.intercalate [separator] (splitChar separator text) = text := by
  induction text with
  | nil => rfl
  | cons code rest ih =>
    rw [splitChar]
    split
    · rename_i same
      rw [intercalate_cons (splitChar_ne_nil separator rest), ih, same]
      rfl
    · obtain ⟨part, parts, split⟩ := List.exists_cons_of_ne_nil (splitChar_ne_nil separator rest)
      rw [split] at ih ⊢
      dsimp only
      by_cases last : parts = []
      · subst last
        rw [← ih]
        simp [List.intercalate]
      · rw [intercalate_cons last] at ih ⊢
        rw [← ih, List.cons_append]

/-- No part contains the separator. -/
theorem splitChar_parts {separator : Nat} {text part : PyStr}
    (member : part ∈ splitChar separator text) : separator ∉ part := by
  induction text generalizing part with
  | nil =>
    rw [splitChar, List.mem_singleton] at member
    simp [member]
  | cons code rest ih =>
    rw [splitChar] at member
    split at member
    · rcases List.mem_cons.mp member with rfl | later
      · simp
      · exact ih later
    · rename_i different
      obtain ⟨first, parts, split⟩ := List.exists_cons_of_ne_nil (splitChar_ne_nil separator rest)
      rw [split] at member ih
      rcases List.mem_cons.mp member with rfl | later
      · rw [List.mem_cons, not_or]
        exact ⟨fun same => different same.symm, ih (List.mem_cons_self ..)⟩
      · exact ih (List.mem_cons_of_mem _ later)

/-- A text starts with the text that is dropped. -/
theorem dropStart_eq_some {start text rest : PyStr} :
    dropStart start text = some rest ↔ text = start ++ rest := by
  induction start generalizing text with
  | nil => exact ⟨fun same => Option.some.inj same, fun same => congrArg some same⟩
  | cons first start ih =>
    cases text with
    | nil =>
      constructor
      · intro no
        cases no
      · intro no
        cases no
    | cons code text =>
      rw [dropStart, List.cons_append, List.cons_eq_cons]
      split
      · rename_i same
        exact ih.trans ⟨fun others => ⟨same.symm, others⟩, And.right⟩
      · rename_i different
        constructor
        · intro no
          cases no
        · intro both
          exact absurd both.1.symm different

/-- A text is split at the first separator in one way only. -/
theorem append_separator_inj {separator : Nat} {left right leftRest rightRest : PyStr}
    (leftPlain : separator ∉ left) (rightPlain : separator ∉ right)
    (same : left ++ separator :: leftRest = right ++ separator :: rightRest) :
    left = right ∧ leftRest = rightRest := by
  have parts := congrArg (splitChar separator) same
  rw [splitChar_append_cons leftPlain, splitChar_append_cons rightPlain] at parts
  obtain ⟨first, rest⟩ := List.cons.inj parts
  refine ⟨first, ?_⟩
  rw [← intercalate_splitChar separator leftRest, rest, intercalate_splitChar]

/-- A decimal number is written in digits. -/
theorem natText_digits {number code : Nat} (member : code ∈ natText number) :
    48 ≤ code ∧ code ≤ 57 := by
  obtain ⟨char, inside, rfl⟩ := List.mem_map.mp member
  have digit := Nat.isDigit_of_mem_toDigits (by decide) (by decide) inside
  rw [Char.isDigit, Bool.and_eq_true, decide_eq_true_eq, decide_eq_true_eq] at digit
  exact ⟨digit.1, digit.2⟩

/-- The digits of a padded number. -/
theorem padded_digits {width number code : Nat} (member : code ∈ padded width number) :
    48 ≤ code ∧ code ≤ 57 := by
  unfold padded at member
  split at member
  · exact fixedDigits_range member
  · exact natText_digits member

/-- The characters of a date. -/
theorem isoformat_plain (date : Date) : 47 ∉ date.isoformat ∧ 92 ∉ date.isoformat := by
  have visible : ∀ code ∈ date.isoformat, code ≤ 57 ∧ code ≠ 47 := by
    intro code member
    simp only [Date.isoformat, List.mem_append] at member
    rcases member with (((digit | dash) | digit) | dash) | digit
    · have := padded_digits digit
      omega
    · rw [List.mem_singleton.mp dash]
      decide
    · have := padded_digits digit
      omega
    · rw [List.mem_singleton.mp dash]
      decide
    · have := padded_digits digit
      omega
  exact ⟨fun member => (visible _ member).2 rfl,
    fun member => absurd (visible _ member).1 (by decide)⟩

end Python

import PaymentsPlatform.Cdc.Storage
import PaymentsPlatform.Python.Path

/-!
# Object keys

What `validate_object_key` makes of a key that is written as segments: such a key is already in
the form the function returns, and it is accepted when no segment is `..` and none has a
backslash.
-/

namespace Cdc

open Python

/-- A segment a normalized key can have. -/
structure IsSegment (part : PyStr) : Prop where
  /-- It is not empty. -/
  filled : part ≠ []
  /-- It does not name the directory itself. -/
  named : part ≠ py "."
  /-- It is one segment. -/
  single : 47 ∉ part

/-- The segments `validate_object_key` looks at. -/
theorem keyParts_segments {parts : List PyStr} (some_part : parts ≠ [])
    (segments : ∀ part ∈ parts, IsSegment part) :
    ((splitChar 47 (List.intercalate [47] parts)).filter fun part =>
      part ≠ [] ∧ part ≠ py ".") = parts := by
  rw [splitChar_intercalate some_part fun part member => (segments part member).single,
    List.filter_eq_self]
  intro part member
  simpa using ⟨(segments part member).filled, (segments part member).named⟩

/-- A key written as segments is returned as it is. -/
theorem validateObjectKey_segments {parts : List PyStr} (some_part : parts ≠ [])
    (segments : ∀ part ∈ parts, IsSegment part) {valid : PyStr}
    (accepted : validateObjectKey (List.intercalate [47] parts) = .ok valid) :
    valid = List.intercalate [47] parts := by
  unfold validateObjectKey at accepted
  rw [keyParts_segments some_part segments] at accepted
  dsimp only at accepted
  split at accepted
  · cases accepted
  · split at accepted
    · cases accepted
    · exact (Except.ok.inj accepted).symm

/-- A key of segments without `..` and without a backslash is accepted. -/
theorem validateObjectKey_accepts {parts : List PyStr} (some_part : parts ≠ [])
    (segments : ∀ part ∈ parts, IsSegment part) (inside : py ".." ∉ parts)
    (posix : ∀ part ∈ parts, 92 ∉ part) :
    validateObjectKey (List.intercalate [47] parts) = .ok (List.intercalate [47] parts) := by
  obtain ⟨first, rest, rfl⟩ := List.exists_cons_of_ne_nil some_part
  have head := segments first (List.mem_cons_self ..)
  obtain ⟨code, codes, text⟩ := List.exists_cons_of_ne_nil head.filled
  have start : (List.intercalate [47] (first :: rest)).head? = some code := by
    by_cases last : rest = []
    · subst last
      simp [List.intercalate, text]
    · rw [intercalate_cons last, text]
      rfl
  have relative : code ≠ 47 := fun slash => head.single (by rw [text, slash]; simp)
  have filled : List.intercalate [47] (first :: rest) ≠ [] := by
    intro empty
    rw [empty] at start
    cases start
  have plain : 92 ∉ List.intercalate [47] (first :: rest) := by
    intro member
    obtain slash | ⟨part, among, found⟩ := mem_intercalate member
    · cases slash
    · exact posix part among found
  unfold validateObjectKey
  rw [keyParts_segments some_part segments]
  dsimp only
  rw [if_neg (not_or.mpr ⟨filled, plain⟩), if_neg (not_or.mpr ⟨?_, inside⟩), if_neg some_part]
  rw [start]
  exact fun slash => relative (Option.some.inj slash)

/-- A label before a text without a separator makes a segment. -/
theorem IsSegment.labelled {label value : PyStr} (labelled : IsSegment label)
    (marked : label.head? ≠ some 46) (plain : 47 ∉ value) : IsSegment (label ++ value) where
  filled := by
    intro empty
    exact labelled.filled (List.append_eq_nil_iff.mp empty).1
  named := by
    intro dot
    obtain ⟨code, codes, text⟩ := List.exists_cons_of_ne_nil labelled.filled
    rw [text, List.cons_append] at dot
    rw [text] at marked
    exact marked (congrArg some (List.cons.inj dot).1)
  single := by
    rw [List.mem_append, not_or]
    exact ⟨labelled.single, plain⟩

/-- Where an object is kept: its bucket and the key `validate_object_key` returns. -/
theorem Backend.locate_spec {backend : Backend} {bucket key : PyStr} {place : Location × PyStr}
    (located : backend.locate bucket key = .ok place) :
    ∃ valid, validateObjectKey key = .ok valid ∧ place.1 = ⟨bucket, valid⟩ := by
  unfold Backend.locate at located
  cases normalized : validateObjectKey key with
  | error problem =>
    rw [normalized] at located
    split at located
    · split at located <;> cases located
    · cases located
  | ok valid =>
    rw [normalized] at located
    refine ⟨valid, rfl, ?_⟩
    split at located
    · split at located
      · cases located
      · cases located
        rfl
    · cases located
      rfl

end Cdc

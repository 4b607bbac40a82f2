import PaymentsPlatform.Cdc.Keys

/-!
# Confined object keys

`validate_object_key` looks for `.` among the parts of a `PurePosixPath`, which never has such a
part. So it accepts keys with `.` segments, and it turns a key of nothing else into the path `.`,
which is the bucket itself. Every other key is refused or returned in a form that stays below the
bucket and that the function returns again.
-/

namespace Cdc

open Python

/-- The parts of `PurePosixPath(key)` for a relative key: empty and `.` segments are dropped. -/
def pathParts (key : PyStr) : List PyStr :=
  (splitChar 47 key).filter fun part => part ≠ [] ∧ part ≠ py "."

/-- `LocalStorageBackend._path`, as the parts of a path below the root of a bucket. -/
def localPath (root : List PyStr) (key : PyStr) : Except PyError (List PyStr) :=
  (validateObjectKey key).map fun valid => root ++ pathParts valid

/-- A key in the form the function promises: relative segments, none empty, `.` or `..`. -/
def Normal (key : PyStr) : Prop :=
  key ≠ [] ∧ key.head? ≠ some 47 ∧
    ∀ part ∈ splitChar 47 key, part ≠ [] ∧ part ≠ py "." ∧ part ≠ py ".."

/-- What must be refused: an absolute key, a backslash, a `.` or a `..` segment. -/
def Traverses (key : PyStr) : Prop :=
  key.head? = some 47 ∨ 92 ∈ key ∨ py "." ∈ splitChar 47 key ∨ py ".." ∈ splitChar 47 key

/-- A key is refused with a storage error. -/
def Refused (key : PyStr) : Prop :=
  ∃ error, validateObjectKey key = .error error ∧ error.kind = .storageBackendError

/-- What `validate_object_key` promises of a key. -/
structure Confined (key : PyStr) : Prop where
  /-- The key is refused, or its normal form is returned and is its own normal form. -/
  outcome : Refused key ∨
    ∃ valid, validateObjectKey key = .ok valid ∧ Normal valid ∧
      validateObjectKey valid = .ok valid
  /-- Every traversing key is refused. -/
  refuses : Traverses key → Refused key
  /-- The file of an accepted key lies strictly below the root of the bucket. -/
  below : ∀ root path, localPath root key = .ok path →
    ∃ inner, inner ≠ [] ∧ py ".." ∉ inner ∧ path = root ++ inner

/-- The parts of a path are segments. -/
theorem pathParts_segment {key part : PyStr} (member : part ∈ pathParts key) : IsSegment part := by
  obtain ⟨inside, kept⟩ := List.mem_filter.mp member
  rw [decide_eq_true_eq] at kept
  exact ⟨kept.1, kept.2, splitChar_parts inside⟩

/-- When a key is accepted, and what is returned. -/
theorem validateObjectKey_ok_iff {key valid : PyStr} :
    validateObjectKey key = .ok valid ↔
      (key ≠ [] ∧ 92 ∉ key ∧ key.head? ≠ some 47 ∧ py ".." ∉ pathParts key) ∧
        valid = if pathParts key = [] then py "." else List.intercalate [47] (pathParts key) := by
  unfold validateObjectKey
  dsimp only
  rw [← pathParts]
  split
  · rename_i bad
    simp only [reduceCtorEq, false_iff]
    rintro ⟨⟨filled, posix, -⟩, -⟩
    exact bad.elim filled posix
  · rename_i good
    split
    · rename_i bad
      simp only [reduceCtorEq, false_iff]
      rintro ⟨⟨-, -, relative, inside⟩, -⟩
      exact bad.elim relative inside
    · rename_i fine
      rw [not_or] at good fine
      rw [Except.ok.injEq]
      exact ⟨fun same => ⟨⟨good.1, good.2, fine.1, fine.2⟩, same.symm⟩, fun both => both.2.symm⟩

/-- The parts of what is returned are the parts of the key. -/
theorem pathParts_valid {key valid : PyStr} (accepted : validateObjectKey key = .ok valid) :
    pathParts valid = pathParts key := by
  obtain ⟨-, rfl⟩ := validateObjectKey_ok_iff.mp accepted
  split
  · rename_i empty
    rw [empty]
    decide
  · rename_i some_part
    exact keyParts_segments some_part fun part member => pathParts_segment member

/-- A refusal is a storage error. -/
theorem refused_of_not_ok {key : PyStr} (never : ∀ valid, validateObjectKey key ≠ .ok valid) :
    Refused key := by
  cases result : validateObjectKey key with
  | ok valid => exact absurd result (never valid)
  | error error =>
    refine ⟨error, result, ?_⟩
    unfold validateObjectKey at result
    dsimp only at result
    split at result
    · rw [← Except.error.inj result]
    · split at result
      · rw [← Except.error.inj result]
      · cases result

/-- An accepted key is not refused. -/
theorem not_refused_of_ok {key valid : PyStr} (accepted : validateObjectKey key = .ok valid) :
    ¬ Refused key := by
  rintro ⟨error, refused, -⟩
  rw [accepted] at refused
  cases refused

/-- A relative key that is not empty starts with a segment that is not empty. -/
theorem splitChar_head {key : PyStr} (filled : key ≠ []) (relative : key.head? ≠ some 47) :
    ∃ part ∈ splitChar 47 key, part ≠ [] := by
  obtain ⟨code, rest, rfl⟩ := List.exists_cons_of_ne_nil filled
  have different : code ≠ 47 := fun same => relative (congrArg some same)
  rw [splitChar, if_neg different]
  split
  · exact ⟨[code], List.mem_singleton.mpr rfl, List.cons_ne_nil _ _⟩
  · exact ⟨_, List.mem_cons_self .., List.cons_ne_nil _ _⟩

/-- `..` is a part exactly when it is a segment. -/
theorem parent_mem_pathParts {key : PyStr} :
    py ".." ∈ pathParts key ↔ py ".." ∈ splitChar 47 key := by
  unfold pathParts
  rw [List.mem_filter]
  exact ⟨fun both => both.1, fun member => ⟨member, by decide⟩⟩

/-- An accepted key without `.` segments is returned in normal form, and stays below the root. -/
theorem accepted_normal {key valid : PyStr} (accepted : validateObjectKey key = .ok valid)
    (plain : py "." ∉ splitChar 47 key) :
    Normal valid ∧ validateObjectKey valid = .ok valid ∧ pathParts key ≠ [] := by
  obtain ⟨⟨filled, posix, relative, inside⟩, rfl⟩ := validateObjectKey_ok_iff.mp accepted
  have some_part : pathParts key ≠ [] := by
    obtain ⟨part, member, nonempty⟩ := splitChar_head filled relative
    refine List.ne_nil_of_mem (List.mem_filter.mpr ⟨member, ?_⟩)
    rw [decide_eq_true_eq]
    exact ⟨nonempty, fun dot => plain (dot ▸ member)⟩
  have segments : ∀ part ∈ pathParts key, IsSegment part := fun _ => pathParts_segment
  have characters : ∀ part ∈ pathParts key, 92 ∉ part := by
    intro part member found
    refine posix ?_
    rw [← intercalate_splitChar 47 key]
    exact mem_intercalate_part (List.mem_filter.mp member).1 found
  have again := validateObjectKey_accepts some_part segments inside characters
  rw [if_neg some_part]
  refine ⟨?_, again, some_part⟩
  obtain ⟨⟨kept, -, start, -⟩, -⟩ := validateObjectKey_ok_iff.mp again
  refine ⟨kept, start, fun part member => ?_⟩
  rw [splitChar_intercalate some_part fun part member => (segments part member).single] at member
  have segment := segments part member
  exact ⟨segment.filled, segment.named, fun parent => inside (parent ▸ member)⟩

/-- A key is handled as promised unless it has a `.` segment and is otherwise acceptable. -/
theorem confined_iff (key : PyStr) :
    Confined key ↔ (py "." ∈ splitChar 47 key →
      key.head? = some 47 ∨ 92 ∈ key ∨ py ".." ∈ splitChar 47 key) := by
  constructor
  · intro confined dot
    by_contra acceptable
    rw [not_or, not_or] at acceptable
    obtain ⟨relative, posix, inside⟩ := acceptable
    have filled : key ≠ [] := by
      rintro rfl
      exact absurd dot (by decide)
    have accepted := validateObjectKey_ok_iff.mpr
      ⟨⟨filled, posix, relative, mt parent_mem_pathParts.mp inside⟩, rfl⟩
    exact not_refused_of_ok accepted (confined.refuses (Or.inr (Or.inr (Or.inl dot))))
  · intro condition
    by_cases returns : ∃ valid, validateObjectKey key = .ok valid
    · obtain ⟨valid, accepted⟩ := returns
      obtain ⟨⟨filled, posix, relative, inside⟩, -⟩ := validateObjectKey_ok_iff.mp accepted
      have plain : py "." ∉ splitChar 47 key := by
        intro dot
        rcases condition dot with slash | backslash | parent
        · exact relative slash
        · exact posix backslash
        · exact inside (parent_mem_pathParts.mpr parent)
      obtain ⟨normal, again, some_part⟩ := accepted_normal accepted plain
      refine ⟨Or.inr ⟨valid, accepted, normal, again⟩, ?_, ?_⟩
      · rintro (slash | backslash | dot | parent)
        · exact absurd slash relative
        · exact absurd backslash posix
        · exact absurd dot plain
        · exact absurd (parent_mem_pathParts.mpr parent) inside
      · intro root path located
        obtain ⟨own, found, rfl⟩ := map_eq_ok.mp located
        rw [pathParts_valid found]
        exact ⟨pathParts key, some_part, inside, rfl⟩
    · have refused : Refused key := refused_of_not_ok fun valid accepted =>
        returns ⟨valid, accepted⟩
      refine ⟨Or.inl refused, fun _ => refused, fun root path located => ?_⟩
      obtain ⟨valid, found, -⟩ := map_eq_ok.mp located
      exact absurd ⟨valid, found⟩ returns

/-- Two accepted keys have the same file exactly when they have the same normal form. -/
theorem localPath_eq_iff {root : List PyStr} {key other valid valid' : PyStr}
    (accepted : validateObjectKey key = .ok valid)
    (accepted' : validateObjectKey other = .ok valid') :
    localPath root key = localPath root other ↔ valid = valid' := by
  unfold localPath
  rw [accepted, accepted']
  constructor
  · intro same
    have parts : pathParts key = pathParts other := by
      rw [← pathParts_valid accepted, ← pathParts_valid accepted']
      exact List.append_cancel_left (Except.ok.inj same)
    rw [(validateObjectKey_ok_iff.mp accepted).2, (validateObjectKey_ok_iff.mp accepted').2, parts]
  · rintro rfl
    rfl

/-- Object keys are confined exactly when no acceptable one has a `.` segment, and files are shared
exactly by keys with one normal form. -/
theorem object_keys_confined (key : PyStr) :
    (Confined key ↔ (py "." ∈ splitChar 47 key →
      key.head? = some 47 ∨ 92 ∈ key ∨ py ".." ∈ splitChar 47 key)) ∧
    ∀ root other valid valid', validateObjectKey key = .ok valid →
      validateObjectKey other = .ok valid' →
        (localPath root key = localPath root other ↔ valid = valid') :=
  ⟨confined_iff key, fun _ _ _ _ accepted accepted' => localPath_eq_iff accepted accepted'⟩

/-- The key `.` is accepted, and its file is the bucket. -/
theorem dot_not_confined : validateObjectKey (py ".") = .ok (py ".") ∧
    localPath [py "bucket"] (py ".") = .ok [py "bucket"] ∧ ¬ Confined (py ".") := by
  have located : localPath [py "bucket"] (py ".") = .ok [py "bucket"] := by decide +kernel
  refine ⟨by decide +kernel, located, fun confined => ?_⟩
  obtain ⟨inner, some_part, -, path⟩ := confined.below _ _ located
  have empty : inner = [] := List.append_cancel_left (path.symm.trans (List.append_nil _).symm)
  exact some_part empty

end Cdc

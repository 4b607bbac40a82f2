import PaymentsPlatform.Python.Decoded

/-!
# Canonical values

`json.dumps` with sorted keys writes the canonical form of a value. It is the same for two decoded
values that differ only in the order of members, a second pass changes nothing, and it keeps what
makes a value decodable.
-/

namespace Python

namespace Json

/-! ## Sorted members -/

/-- Inserting a member adds it. -/
theorem insertMember_perm (entry : PyStr × Json) (members : List (PyStr × Json)) :
    (insertMember entry members).Perm (entry :: members) := by
  induction members with
  | nil => exact List.Perm.refl _
  | cons first rest ih =>
    unfold insertMember
    split
    · exact List.Perm.refl _
    · exact (ih.cons first).trans (List.Perm.swap entry first rest)

/-- Sorting permutes the members. -/
theorem sortMembers_perm (members : List (PyStr × Json)) : (sortMembers members).Perm members := by
  induction members with
  | nil => exact List.Perm.refl _
  | cons entry rest ih => exact (insertMember_perm entry _).trans (ih.cons entry)

/-- Inserting keeps the order of the keys. -/
theorem insertMember_sorted {entry : PyStr × Json} {members : List (PyStr × Json)}
    (sorted : members.Pairwise fun left right => left.1 ≤ right.1) :
    (insertMember entry members).Pairwise fun left right => left.1 ≤ right.1 := by
  induction members with
  | nil => exact List.pairwise_singleton _ _
  | cons first rest ih =>
    obtain ⟨least, later⟩ := List.pairwise_cons.mp sorted
    unfold insertMember
    split
    · rename_i before
      refine List.pairwise_cons.mpr ⟨fun other member => ?_, sorted⟩
      rcases List.mem_cons.mp member with rfl | behind
      · exact le_of_lt before
      · exact (le_of_lt before).trans (least other behind)
    · rename_i after
      refine List.pairwise_cons.mpr ⟨fun other member => ?_, ih later⟩
      rcases List.mem_cons.mp ((insertMember_perm entry rest).mem_iff.mp member) with rfl | behind
      · exact not_lt.mp after
      · exact least other behind

/-- The keys are in order after sorting. -/
theorem sortMembers_sorted (members : List (PyStr × Json)) :
    (sortMembers members).Pairwise fun left right => left.1 ≤ right.1 := by
  induction members with
  | nil => exact List.Pairwise.nil
  | cons entry rest ih => exact insertMember_sorted ih

/-- The order in which distinct keys stood does not matter. -/
theorem sortMembers_eq_of_perm {left right : List (PyStr × Json)}
    (distinct : (left.map Prod.fst).Nodup) (perm : left.Perm right) :
    sortMembers left = sortMembers right := by
  have together : (sortMembers left).Perm (sortMembers right) :=
    (sortMembers_perm left).trans (perm.trans (sortMembers_perm right).symm)
  refine together.eq_of_pairwise ?_ (sortMembers_sorted left) (sortMembers_sorted right)
  intro entry other member member' before after
  exact List.inj_on_of_nodup_map distinct ((sortMembers_perm left).mem_iff.mp member)
    ((sortMembers_perm left).mem_iff.mp (together.mem_iff.mpr member')) (le_antisymm before after)

/-! ## The canonical form -/

/-- The canonical members are the members with their values in canonical form. -/
theorem canonicalMembers_eq (members : List (PyStr × Json)) :
    canonicalMembers members = members.map fun entry => (entry.1, canonical entry.2) := by
  induction members with
  | nil => rfl
  | cons entry rest ih =>
    obtain ⟨name, value⟩ := entry
    rw [canonicalMembers, ih]
    rfl

/-- The canonical members have the same keys. -/
theorem canonicalMembers_keys (members : List (PyStr × Json)) :
    (canonicalMembers members).map Prod.fst = members.map Prod.fst := by
  rw [canonicalMembers_eq, List.map_map]
  rfl

/-- The canonical members of the same members. -/
theorem canonicalMembers_perm {left right : List (PyStr × Json)} (perm : left.Perm right) :
    (canonicalMembers left).Perm (canonicalMembers right) := by
  rw [canonicalMembers_eq, canonicalMembers_eq]
  exact perm.map _

variable {numbers : Decimal → Prop}

mutual

/-- The canonical form of a decoded value is decoded and has no decimal numbers. -/
theorem Decoded.canonical {depth : Nat} :
    ∀ {value : Json}, Decoded numbers value depth →
      Decoded (fun _ => False) (Json.canonical value) depth
  | .null, _ => trivial
  | .bool _, _ => trivial
  | .int _, held => held
  | .decimal _, _ => trivial
  | .nan, _ => trivial
  | .infinity _, _ => trivial
  | .str _, _ => trivial
  | .arr _, held => ⟨held.1, DecodedItems.canonical held.2⟩
  | .obj members, held => by
    have sorted := sortMembers_perm (canonicalMembers members)
    refine ⟨held.1, ?_, ?_⟩
    · rw [(sorted.map Prod.fst).nodup_iff, canonicalMembers_keys]
      exact held.2.1
    · rw [decodedMembers_iff]
      intro entry member
      exact decodedMembers_iff.mp (DecodedMembers.canonical held.2.2) entry
        (sorted.mem_iff.mp member)

/-- The canonical form of the items of an array. -/
theorem DecodedItems.canonical {depth : Nat} :
    ∀ {items : List Json}, DecodedItems numbers items depth →
      DecodedItems (fun _ => False) (canonicalItems items) depth
  | [], _ => trivial
  | _ :: _, held => ⟨Decoded.canonical held.1, DecodedItems.canonical held.2⟩

/-- The canonical form of the members of an object. -/
theorem DecodedMembers.canonical {depth : Nat} :
    ∀ {members : List (PyStr × Json)}, DecodedMembers numbers members depth →
      DecodedMembers (fun _ => False) (canonicalMembers members) depth
  | [], _ => trivial
  | (_, _) :: _, held => ⟨Decoded.canonical held.1, DecodedMembers.canonical held.2⟩

end

mutual

/-- The canonical form is its own canonical form. -/
theorem canonical_canonical {depth : Nat} :
    ∀ {value : Json}, Decoded numbers value depth →
      canonical (canonical value) = canonical value
  | .null, _ => rfl
  | .bool _, _ => rfl
  | .int _, _ => rfl
  | .decimal _, _ => rfl
  | .nan, _ => rfl
  | .infinity _, _ => rfl
  | .str _, _ => rfl
  | .arr items, held => by
    rw [canonical, canonical, canonicalItems_canonicalItems held.2]
  | .obj members, held => by
    have sorted := canonicalMembers_perm (sortMembers_perm (canonicalMembers members))
    rw [canonicalMembers_canonicalMembers held.2.2] at sorted
    have distinct : ((canonicalMembers members).map Prod.fst).Nodup := by
      rw [canonicalMembers_keys]
      exact held.2.1
    rw [canonical, canonical, ← sortMembers_eq_of_perm distinct sorted.symm]

/-- The canonical items are their own canonical form. -/
theorem canonicalItems_canonicalItems {depth : Nat} :
    ∀ {items : List Json}, DecodedItems numbers items depth →
      canonicalItems (canonicalItems items) = canonicalItems items
  | [], _ => rfl
  | item :: rest, held => by
    rw [canonicalItems, canonicalItems, canonical_canonical held.1,
      canonicalItems_canonicalItems held.2]

/-- The canonical members are their own canonical form. -/
theorem canonicalMembers_canonicalMembers {depth : Nat} :
    ∀ {members : List (PyStr × Json)}, DecodedMembers numbers members depth →
      canonicalMembers (canonicalMembers members) = canonicalMembers members
  | [], _ => rfl
  | (name, value) :: rest, held => by
    rw [canonicalMembers, canonicalMembers, canonical_canonical held.1,
      canonicalMembers_canonicalMembers held.2]

end

/-- A key is looked up in any order of distinct keys. -/
theorem member?_perm {left right : List (PyStr × Json)} (distinct : (left.map Prod.fst).Nodup)
    (perm : left.Perm right) (key : PyStr) : member? left key = member? right key := by
  unfold member?
  congr 1
  cases found : right.find? fun entry => entry.1 = key with
  | none =>
    rw [List.find?_eq_none] at found ⊢
    exact fun entry member => found entry (perm.mem_iff.mp member)
  | some entry =>
    have named : entry.1 = key := by simpa using List.find?_some found
    have present := perm.mem_iff.mpr (List.mem_of_find?_eq_some found)
    cases own : left.find? fun entry => entry.1 = key with
    | none =>
      rw [List.find?_eq_none] at own
      exact absurd named (by simpa using own entry present)
    | some other =>
      have same : other.1 = key := by simpa using List.find?_some own
      rw [List.inj_on_of_nodup_map distinct (List.mem_of_find?_eq_some own) present
        (same.trans named.symm)]

/-- A member of the canonical form of an object is the canonical form of the member. -/
theorem get_canonical {members : List (PyStr × Json)} (distinct : (members.map Prod.fst).Nodup)
    (key : PyStr) :
    get (sortMembers (canonicalMembers members)) key = canonical (get members key) := by
  have keys : ((canonicalMembers members).map Prod.fst).Nodup := by
    rw [canonicalMembers_keys]
    exact distinct
  unfold get
  rw [← member?_perm keys (sortMembers_perm _).symm, canonicalMembers_eq]
  unfold member?
  rw [List.find?_map]
  change ((List.find? (fun entry => entry.1 = key) members).map _ |>.map _).getD _ = _
  cases members.find? fun entry => entry.1 = key with
  | none => rfl
  | some entry => rfl

/-! ## Values alike up to the order of members -/

mutual

/-- Two values that differ only in the order of the members of their objects. -/
def Alike : Json → Json → Prop
  | .arr items, .arr others => AlikeItems items others
  | .obj members, .obj others => ∃ listed, AlikeMembers members listed ∧ listed.Perm others
  | value, other => value = other

/-- Items that are alike one by one. -/
def AlikeItems : List Json → List Json → Prop
  | [], [] => True
  | item :: rest, other :: others => Alike item other ∧ AlikeItems rest others
  | _, _ => False

/-- Members that are alike one by one. -/
def AlikeMembers : List (PyStr × Json) → List (PyStr × Json) → Prop
  | [], [] => True
  | (name, value) :: rest, (otherName, other) :: others =>
    name = otherName ∧ Alike value other ∧ AlikeMembers rest others
  | _, _ => False

end

mutual

/-- Values that are alike have one canonical form. -/
theorem canonical_eq_of_alike {depth : Nat} :
    ∀ {value other : Json}, Decoded numbers value depth → Alike value other →
      canonical value = canonical other
  | .null, other, _, alike => by cases other <;> cases alike; rfl
  | .bool _, other, _, alike => by cases other <;> cases alike; rfl
  | .int _, other, _, alike => by cases other <;> cases alike; rfl
  | .decimal _, other, _, alike => by cases other <;> cases alike; rfl
  | .nan, other, _, alike => by cases other <;> cases alike; rfl
  | .infinity _, other, _, alike => by cases other <;> cases alike; rfl
  | .str _, other, _, alike => by cases other <;> cases alike; rfl
  | .arr items, other, held, alike => by
    cases other with
    | arr others => rw [canonical, canonical, canonicalItems_eq_of_alike held.2 alike]
    | _ => cases alike
  | .obj members, other, held, alike => by
    cases other with
    | obj others =>
      obtain ⟨listed, same, perm⟩ := alike
      have forms := canonicalMembers_eq_of_alike held.2.2 same
      have distinct : ((canonicalMembers listed).map Prod.fst).Nodup := by
        rw [← forms, canonicalMembers_keys]
        exact held.2.1
      rw [canonical, canonical, forms,
        sortMembers_eq_of_perm distinct (canonicalMembers_perm perm)]
    | _ => cases alike

/-- Items that are alike have the same canonical forms. -/
theorem canonicalItems_eq_of_alike {depth : Nat} :
    ∀ {items others : List Json}, DecodedItems numbers items depth → AlikeItems items others →
      canonicalItems items = canonicalItems others
  | [], others, _, alike => by
    cases others with
    | nil => rfl
    | cons _ _ => cases alike
  | item :: rest, others, held, alike => by
    cases others with
    | nil => cases alike
    | cons other others =>
      rw [canonicalItems, canonicalItems, canonical_eq_of_alike held.1 alike.1,
        canonicalItems_eq_of_alike held.2 alike.2]

/-- Members that are alike have the same canonical forms. -/
theorem canonicalMembers_eq_of_alike {depth : Nat} :
    ∀ {members others : List (PyStr × Json)}, DecodedMembers numbers members depth →
      AlikeMembers members others → canonicalMembers members = canonicalMembers others
  | [], others, _, alike => by
    cases others with
    | nil => rfl
    | cons _ _ => cases alike
  | (name, value) :: rest, others, held, alike => by
    cases others with
    | nil => cases alike
    | cons other others =>
      obtain ⟨otherName, otherValue⟩ := other
      obtain ⟨rfl, same, later⟩ := alike
      rw [canonicalMembers, canonicalMembers, canonical_eq_of_alike held.1 same,
        canonicalMembers_eq_of_alike held.2 later]

end

end Json

end Python

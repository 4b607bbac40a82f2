import PaymentsPlatform.Collections.Replacing
import PaymentsPlatform.Python.Text

/-!
# Redacted errors

`redact_text` replaces the secrets one after the other with `***`. A secret that starts or ends
with the mask character, or contains the mask, can be spelled again by an inserted mask and the text
beside it; every other secret is gone from the result, whatever the text and the other secrets are.
-/

namespace Cdc

open Python Collections

/-- The mask. -/
def mask : PyStr := "***"

/-- `redact_text`. -/
def redactText (value : PyStr) (secrets : List PyStr) : PyStr :=
  secrets.foldl (fun redacted secret =>
    if secret = [] then redacted else replaceAll secret mask redacted) value

/-- What a `ConnectApiError` says: a fixed text and what is quoted from the response. -/
structure ConnectApiError where
  /-- The text before the quotation. -/
  heading : PyStr
  /-- The quotation. -/
  detail : PyStr

/-- The error of `validate` for a response that counts errors. -/
def validateError (errors : List PyStr) (errorCount : Int) (password : PyStr) : ConnectApiError :=
  let joined := List.intercalate (py "; ") errors
  let detail := if joined = [] then intText errorCount ++ py " connector fields are invalid"
    else joined
  ⟨[], redactText detail [password]⟩

/-- The error of `_request` for a response of an unexpected status. -/
def requestError (method : PyStr) (status : Int) (detail password : PyStr) : ConnectApiError :=
  ⟨py "Kafka Connect " ++ method ++ py " returned HTTP " ++ intText status ++ py ": ",
    redactText detail [password]⟩

/-- The secrets are gone from every redacted text. -/
def Redacts (secrets : List PyStr) : Prop :=
  ∀ text, ∀ secret ∈ secrets, ¬ secret <:+: redactText text secrets

/-- No error of the client quotes the password. -/
def QuotesNoPassword (password : PyStr) : Prop :=
  (∀ errors errorCount, ¬ password <:+: (validateError errors errorCount password).detail) ∧
    ∀ method status detail, ¬ password <:+: (requestError method status detail password).detail

/-- The secret neither starts nor ends with the mask character and does not contain the mask. -/
def Unmasked (secret : PyStr) : Prop :=
  secret.head? ≠ some 42 ∧ secret.getLast? ≠ some 42 ∧ ¬ mask <:+: secret

/-- Such a secret cannot overlap the mask. -/
theorem Unmasked.unglued {secret : PyStr} (unmasked : Unmasked secret) : Unglued mask secret := by
  obtain ⟨start, ending, around⟩ := unmasked
  have stars : ∀ code ∈ mask, code = 42 := by decide
  refine ⟨fun code first member => ?_, fun code last member => ?_, around⟩
  · rw [stars code member] at first
    exact start first
  · rw [stars code member] at last
    exact ending last

/-! ## Redaction removes -/

/-- Replacing one secret removes it, and brings back no other. -/
theorem replaceAll_removes {secret other text : PyStr} (filled : secret ≠ [])
    (otherFilled : other ≠ []) (unmasked : Unmasked other)
    (gone : other = secret ∨ ¬ other <:+: text) :
    ¬ other <:+: replaceAll secret mask text := by
  intro found
  obtain ⟨pieces, cut, same⟩ := exists_pieces filled mask text
  rw [same] at found
  obtain ⟨piece, member, inside⟩ := unmasked.unglued.infix_joined otherFilled found
  rcases gone with rfl | absent
  · exact cut.clean member inside
  · exact absent (inside.trans (cut.part member))

/-- A removed secret stays away. -/
theorem redactText_keeps {secrets : List PyStr} {other text : PyStr} (otherFilled : other ≠ [])
    (unmasked : Unmasked other) (absent : ¬ other <:+: text) :
    ¬ other <:+: redactText text secrets := by
  induction secrets generalizing text with
  | nil => exact absent
  | cons secret secrets ih =>
    refine ih ?_
    dsimp only
    split
    · exact absent
    · rename_i filled
      exact replaceAll_removes filled otherFilled unmasked (Or.inr absent)

/-- Every secret of this kind is gone from the result. -/
theorem redacts_of_unmasked {secrets : List PyStr} (filled : ∀ secret ∈ secrets, secret ≠ [])
    (unmasked : ∀ secret ∈ secrets, Unmasked secret) : Redacts secrets := by
  induction secrets with
  | nil =>
    intro text secret member
    cases member
  | cons first secrets ih =>
    intro text secret member
    have firstFilled := filled first (List.mem_cons_self ..)
    have step : redactText text (first :: secrets) =
        redactText (replaceAll first mask text) secrets := by
      rw [redactText, List.foldl_cons, if_neg firstFilled]
      rfl
    rw [step]
    rcases List.mem_cons.mp member with rfl | later
    · exact redactText_keeps firstFilled (unmasked secret member)
        (replaceAll_removes firstFilled firstFilled (unmasked secret member) (Or.inl rfl))
    · exact ih (fun other among => filled other (List.mem_cons_of_mem _ among))
        (fun other among => unmasked other (List.mem_cons_of_mem _ among)) _ secret later

/-! ## Secrets spelled again -/

/-- A secret that starts with the mask character is spelled by the mask and what follows it. -/
theorem spelled_start (rest : PyStr) :
    42 :: rest <:+: replaceAll (42 :: rest) mask ((42 :: rest) ++ rest) := by
  have short : ¬ 42 :: rest <:+: rest := fun found =>
    absurd found.length_le (by simp)
  rw [replaceAll_append (List.cons_ne_nil _ _), replaceAll_clean short]
  exact ⟨[42, 42], [], by simp [mask, py]⟩

/-- A secret that ends with the mask character, and does not start with it, is spelled by the mask
and what stands before it. -/
theorem spelled_end {front : PyStr} (start : (front ++ [42]).head? ≠ some 42) :
    front ++ [42] <:+: replaceAll (front ++ [42]) mask (front ++ ((front ++ [42]) ++ [])) := by
  have first : ∀ index < front.length,
      ¬ front ++ [42] <+: (front ++ ((front ++ [42]) ++ [])).drop index := by
    intro index inside found
    -- An earlier occurrence starts with the character of the first copy that its last character
    -- is in the second copy.
    have letters : ∀ place < front.length + 1,
        (front ++ [42])[place]? = (front ++ (front ++ [42]))[index + place]? := by
      intro place bound
      rw [List.append_nil] at found
      exact getElem?_of_prefix_drop found (by simpa using bound)
    have star : (front ++ [42])[front.length]? = some 42 := by simp
    have second : (front ++ (front ++ [42]))[index + front.length]? = front[index]? := by
      rw [List.getElem?_append_right (by omega), Nat.add_sub_cancel,
        List.getElem?_append_left inside]
    have last := letters front.length (Nat.lt_succ_self _)
    have head := letters 0 (Nat.succ_pos _)
    rw [star, second] at last
    rw [Nat.add_zero, List.getElem?_append_left inside, ← last] at head
    exact start (List.head?_eq_getElem?.trans head)
  rw [replaceAll_first (by simp) first, replaceAll_nil, List.append_nil]
  exact ⟨[], [42, 42], by simp [mask, py]⟩

/-- A secret that contains the mask is spelled by it and what stands around it. -/
theorem spelled_around {secret : PyStr} (around : mask <:+: secret) :
    ∃ text, secret <:+: replaceAll secret mask text := by
  obtain ⟨front, rest, shape, first⟩ := exists_first around
  have filled : secret ≠ [] := by
    rintro rfl
    exact absurd (List.infix_nil.mp around) (by decide)
  have earlier : ∀ index < front.length,
      ¬ secret <+: (front ++ (secret ++ rest)).drop index := by
    intro index inside found
    refine first index inside ?_
    -- The mask of an earlier occurrence would be an earlier mask of the secret.
    have position : mask <+: (front ++ (secret ++ rest)).drop (front.length + index) := by
      rw [Nat.add_comm, ← List.drop_drop]
      refine List.IsPrefix.trans ?_ (found.drop front.length)
      rw [shape, List.drop_left]
      exact List.prefix_append _ _
    rw [← List.drop_drop, List.drop_left] at position
    have room : index + mask.length ≤ secret.length := by
      have total := congrArg List.length shape
      simp only [List.length_append] at total
      omega
    rw [List.drop_append_of_le_length (by omega)] at position
    refine List.prefix_of_prefix_length_le position (List.prefix_append _ _) ?_
    rw [List.length_drop]
    omega
  have short : ¬ secret <:+: rest := by
    intro found
    have total := congrArg List.length shape
    have size := found.length_le
    have three : mask.length = 3 := rfl
    simp only [List.length_append] at total
    omega
  refine ⟨front ++ (secret ++ rest), ?_⟩
  rw [replaceAll_first filled earlier, replaceAll_clean short, ← shape]

/-- A secret of another kind is spelled again in some text. -/
theorem spelled_of_masked {secret : PyStr} (masked : ¬ Unmasked secret) :
    ∃ text, secret <:+: replaceAll secret mask text := by
  by_cases start : secret.head? = some 42
  · obtain ⟨rest, rfl⟩ := List.head?_eq_some_iff.mp start
    exact ⟨_, spelled_start rest⟩
  by_cases ending : secret.getLast? = some 42
  · obtain ⟨front, rfl⟩ := List.getLast?_eq_some_iff.mp ending
    exact ⟨_, spelled_end start⟩
  · refine spelled_around (not_not.mp fun around => masked ⟨start, ending, around⟩)

/-- One secret is redacted from every text exactly when the mask cannot spell it again. -/
theorem redacts_single_iff {secret : PyStr} (filled : secret ≠ []) :
    Redacts [secret] ↔ Unmasked secret := by
  constructor
  · intro redacts
    by_contra masked
    obtain ⟨text, found⟩ := spelled_of_masked masked
    refine redacts text secret (List.mem_singleton.mpr rfl) ?_
    rw [redactText, List.foldl_cons, List.foldl_nil, if_neg filled]
    exact found
  · intro unmasked
    refine redacts_of_unmasked (fun other member => ?_) fun other member => ?_
    · rwa [List.mem_singleton.mp member]
    · rwa [List.mem_singleton.mp member]

/-- The errors of the client quote no password exactly when the password is redacted from every
text. -/
theorem quotesNoPassword_iff {password : PyStr} :
    QuotesNoPassword password ↔ Redacts [password] := by
  constructor
  · intro quotes text secret member
    rw [List.mem_singleton.mp member]
    exact quotes.2 [] 0 text
  · intro redacts
    exact ⟨fun _ _ => redacts _ password (List.mem_singleton.mpr rfl),
      fun _ _ _ => redacts _ password (List.mem_singleton.mpr rfl)⟩

/-- Redaction removes the secrets when none of them starts or ends with the mask character or
contains the mask; for the one secret of the client exactly then. -/
theorem redaction_removes (secrets : List PyStr) (filled : ∀ secret ∈ secrets, secret ≠ []) :
    ((∀ secret ∈ secrets, Unmasked secret) → Redacts secrets) ∧
      ∀ password, secrets = [password] →
        (Redacts secrets ↔ Unmasked password) ∧
        (QuotesNoPassword password ↔ Unmasked password) := by
  refine ⟨redacts_of_unmasked filled, ?_⟩
  rintro password rfl
  have single := redacts_single_iff (filled password (List.mem_singleton.mpr rfl))
  exact ⟨single, quotesNoPassword_iff.trans single⟩

/-- A password without mask characters is redacted. -/
theorem plain_password_redacted : QuotesNoPassword (py "never-print-this") := by
  have filled : ∀ secret ∈ [py "never-print-this"], secret ≠ [] := by decide
  refine ((redaction_removes [py "never-print-this"] filled).2 _ rfl).2.mpr ⟨?_, ?_, ?_⟩
  · decide
  · decide
  · decide

/-- The password `a*` is spelled again by the mask behind an `a`. -/
theorem starred_password_quoted :
    redactText (py "aa*") [py "a*"] = py "a***" ∧ ¬ QuotesNoPassword (py "a*") := by
  refine ⟨by decide, fun quotes => ?_⟩
  exact quotes.2 (py "PUT") 400 (py "aa*") ⟨[], py "**", by decide⟩

end Cdc

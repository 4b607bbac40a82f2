import PaymentsPlatform.Cdc.Envelope
import PaymentsPlatform.Python.Decoded

/-!
# Row states in Bronze

The columns `before_json` and `after_json` of a Bronze event are the canonical texts of two members
of the envelope, and those members are decoded values.
-/

namespace Cdc

open Python

/-- `deterministic_json` of a decoded value: `_json_default` writes a decimal number as a string. -/
def deterministicJson (value : Json) : PyStr := Json.dumps value

/-- A member of the payload of the envelope; a record without a payload has none. -/
def envelopeMember (context : ParserContext) (message : RawKafkaMessage) (name : PyStr) : Json :=
  match message.value with
  | none => .null
  | some value =>
    match decodeJson context value with
    | .ok (.obj document, _) =>
      match (Json.member? document "payload").getD (.obj document) with
      | .obj payload => Json.get payload name
      | _ => .null
    | _ => .null

/-- The column of a row state. -/
def stateText (state : Json) : Option PyStr :=
  if state.isNull then none else some (deterministicJson state)

/-- What an event keeps of the two states of its row. -/
structure KeepsStates (context : ParserContext) (message : RawKafkaMessage)
    (event : BronzeEvent) : Prop where
  /-- The old row. -/
  before : event.beforeJson = stateText (envelopeMember context message "before")
  /-- The new row. -/
  after : event.afterJson = stateText (envelopeMember context message "after")
  /-- Only a record without value is a tombstone. -/
  tombstone : event.operation = py "t" → message.value = none

/-- A member of the envelope is a decoded value. -/
theorem envelopeMember_decoded (context : ParserContext) (message : RawKafkaMessage)
    (name : PyStr) :
    Json.Decoded Decimal.Possible (envelopeMember context message name)
      context.recursionLimit := by
  unfold envelopeMember
  split
  · trivial
  · rename_i value _
    split
    · rename_i document text decoded
      have held : Json.Decoded Decimal.Possible (.obj document) context.recursionLimit := by
        unfold decodeJson at decoded
        split at decoded
        · cases decoded
        · obtain ⟨found, read, pair⟩ := map_eq_ok.mp decoded
          obtain ⟨rfl, -⟩ := Prod.mk.inj pair
          exact Json.loads_decoded read
      have payload : Json.Decoded Decimal.Possible
          ((Json.member? document "payload").getD (.obj document)) context.recursionLimit := by
        have read := held.get "payload"
        unfold Json.get at read
        cases found : Json.member? document "payload" with
        | none => exact held
        | some inner =>
          rw [found] at read
          exact Json.Decoded.deeper (Nat.sub_le _ _) read
      split
      · rename_i members shape
        rw [shape] at payload
        exact Json.Decoded.deeper (Nat.sub_le _ _) (payload.get name)
      · trivial
    · trivial

/-- The event of a row change has the states it was given. -/
theorem rowEvent_states {context : ParserContext} {observedAt today : Instant}
    {message : RawKafkaMessage} {rawText operation : PyStr} {source : List (PyStr × Json)}
    {before after : Json} {numbers : Option Int × Option Int × Option Int × Option Int}
    {event : BronzeEvent}
    (parsed : rowEvent context observedAt today message rawText operation source before after
      numbers = .ok event) :
    event.beforeJson = stateText before ∧ event.afterJson = stateText after ∧
      event.operation = operation := by
  obtain ⟨key, -, parsed⟩ := bind_eq_ok.mp parsed
  obtain ⟨date, -, parsed⟩ := bind_eq_ok.mp parsed
  obtain rfl := Except.ok.inj parsed
  exact ⟨rfl, rfl, rfl⟩

/-- An event of a payload has the states of the payload. -/
theorem parsePayload_states {context : ParserContext} {observedAt today : Instant}
    {message : RawKafkaMessage} {rawText : PyStr} {payload : List (PyStr × Json)}
    {event : BronzeEvent}
    (parsed : parsePayload context observedAt today message rawText payload = .ok (.event event)) :
    event.beforeJson = stateText (Json.get payload "before") ∧
      event.afterJson = stateText (Json.get payload "after") ∧
      event.operation ∈ supportedOperations := by
  unfold parsePayload at parsed
  split at parsed
  · split at parsed
    · exact absurd parsed poison_not_event
    · rename_i supported
      split at parsed
      · simp only [parseRow] at parsed
        split at parsed
        · exact absurd parsed poison_not_event
        split at parsed
        · exact absurd parsed poison_not_event
        split at parsed
        · exact absurd parsed poison_not_event
        split at parsed
        · obtain ⟨row, built, same⟩ := map_eq_ok.mp parsed
          obtain rfl := ParsedMessage.event.inj same
          obtain ⟨before, after, operation⟩ := rowEvent_states built
          exact ⟨before, after, operation ▸ not_not.mp supported⟩
        · split at parsed
          · exact absurd parsed poison_not_event
          · cases parsed
      · exact absurd parsed poison_not_event
  · split at parsed
    · cases parsed
    · exact absurd parsed poison_not_event
  · cases parsed
  · cases parsed
  · exact absurd parsed poison_not_event

/-- Every event of the parser keeps the states of its row. -/
theorem parse_states {context : ParserContext} {observedAt today : Instant}
    {message : RawKafkaMessage} {event : BronzeEvent}
    (parsed : parseDebeziumMessage context observedAt today message = .ok (.event event)) :
    KeepsStates context message event := by
  obtain ⟨-, read⟩ := parse_ok_iff.mp parsed
  unfold parseValue at read
  split at read
  · -- a tombstone has no states
    rename_i empty
    obtain ⟨row, built, same⟩ := map_eq_ok.mp read
    obtain rfl := ParsedMessage.event.inj same
    obtain ⟨key, -, built⟩ := bind_eq_ok.mp built
    obtain ⟨date, -, built⟩ := bind_eq_ok.mp built
    obtain rfl := Except.ok.inj built
    have none : ∀ name, envelopeMember context message name = .null := by
      intro name
      rw [envelopeMember, empty]
    exact ⟨by rw [none]; rfl, by rw [none]; rfl, fun _ => empty⟩
  · rename_i value present
    split at read
    · split at read
      · exact absurd read poison_not_event
      · split at read
        · exact absurd read poison_not_event
        · cases read
    · rename_i document rawText decoded
      split at read
      · rename_i payload shape
        obtain ⟨before, after, supported⟩ := parsePayload_states read
        have own : ∀ name, envelopeMember context message name = Json.get payload name := by
          intro name
          rw [envelopeMember, present]
          dsimp only
          rw [decoded]
          dsimp only
          rw [shape]
        refine ⟨by rw [own]; exact before, by rw [own]; exact after, fun tombstone => ?_⟩
        rw [tombstone] at supported
        exact absurd supported (by decide)
      · exact absurd read poison_not_event
    · exact absurd read poison_not_event

end Cdc

import PaymentsPlatform.Effects.Contract

/-!
# Services

A service runs one activity after another. An activity may end, fail or be cut off anywhere by
the start of the next one, which is what a crash and a restart look like from the world. The
prefixes of a list of events are the moments of the service, so what holds after every list of
events holds at every moment.
-/

namespace Effects

/-- What happens to a service: an activity is started, or the running one performs its next
effect under a choice of the environment. -/
inductive Event (Activity Choice : Type) where
  | start (activity : Activity)
  | step (choice : Choice)

/-- A machine, the program of each activity, and what starting it does to the world. -/
structure Service (S : Signature) (ε World Choice Activity : Type) where
  /-- The effects. -/
  machine : Machine S ε World Choice
  /-- The program of an activity. -/
  code : Activity → Program S ε Unit
  /-- The world in which the activity starts. -/
  boot : Activity → World → World

namespace Service

variable {S : Signature} {ε World Choice Activity : Type}

/-- One event. Starting an activity forgets the one before. -/
def handle (service : Service S ε World Choice Activity) (event : Event Activity Choice)
    (state : Program S ε Unit × World) : Program S ε Unit × World :=
  match event with
  | .start activity => (service.code activity, service.boot activity state.2)
  | .step choice => service.machine.step choice state

/-- The state after a list of events. -/
def run (service : Service S ε World Choice Activity) (events : List (Event Activity Choice))
    (state : Program S ε Unit × World) : Program S ε Unit × World :=
  events.foldl (fun state event => service.handle event state) state

/-- The world after a list of events, nothing running at first. -/
def moment (service : Service S ε World Choice Activity) (events : List (Event Activity Choice))
    (world : World) : World := (service.run events (.done (), world)).2

/-- Events in two parts. -/
theorem run_append (service : Service S ε World Choice Activity)
    (events more : List (Event Activity Choice)) (state : Program S ε Unit × World) :
    service.run (events ++ more) state = service.run more (service.run events state) := by
  unfold run
  rw [List.foldl_append]

/-- Whether an event meets the conditions on activities that start and on choices. -/
def Allows (starts : Activity → World → Prop) (admits : S.Op → Choice → World → Prop) :
    Event Activity Choice → Program S ε Unit × World → Prop
  | .start activity, state => starts activity state.2
  | .step choice, (.perform op _, world) => admits op choice world
  | .step _, _ => True

/-- Every event of the list meets the conditions where it happens. -/
def Admitted (service : Service S ε World Choice Activity) (starts : Activity → World → Prop)
    (admits : S.Op → Choice → World → Prop) :
    List (Event Activity Choice) → Program S ε Unit × World → Prop
  | [], _ => True
  | event :: events, state =>
    Allows starts admits event state ∧
      service.Admitted starts admits events (service.handle event state)

variable {starts : Activity → World → Prop} {admits : S.Op → Choice → World → Prop}

/-- Conditions that can be decided are decided for an event. -/
instance [each : ∀ activity world, Decidable (starts activity world)]
    [every : ∀ op choice world, Decidable (admits op choice world)]
    (event : Event Activity Choice) (state : Program S ε Unit × World) :
    Decidable (Allows starts admits event state) :=
  match event, state with
  | .start activity, state => each activity state.2
  | .step choice, (.perform op _, world) => every op choice world
  | .step _, (.done _, _) => .isTrue trivial
  | .step _, (.raised _, _) => .isTrue trivial

/-- Conditions that can be decided are decided for a history. -/
instance admittedDecidable [∀ activity world, Decidable (starts activity world)]
    [∀ op choice world, Decidable (admits op choice world)]
    (service : Service S ε World Choice Activity) :
    (events : List (Event Activity Choice)) → (state : Program S ε Unit × World) →
      Decidable (service.Admitted starts admits events state)
  | [], _ => .isTrue trivial
  | event :: events, state =>
    @instDecidableAnd _ _ _ (admittedDecidable service events (service.handle event state))

/-- Admitted events in two parts. -/
theorem admitted_append (service : Service S ε World Choice Activity)
    (events more : List (Event Activity Choice)) (state : Program S ε Unit × World) :
    service.Admitted starts admits (events ++ more) state ↔
      service.Admitted starts admits events state ∧
        service.Admitted starts admits more (service.run events state) := by
  induction events generalizing state with
  | nil => simp [Admitted, run]
  | cons event events ih =>
    rw [List.cons_append, Admitted, Admitted, ih, and_assoc]
    rfl

/-- Events that meet the conditions everywhere. -/
theorem admitted_of_forall (service : Service S ε World Choice Activity)
    (events : List (Event Activity Choice)) (state : Program S ε Unit × World)
    (everywhere : ∀ event ∈ events, ∀ state : Program S ε Unit × World,
      Allows starts admits event state) :
    service.Admitted starts admits events state := by
  induction events generalizing state with
  | nil => trivial
  | cons event events ih =>
    exact ⟨everywhere event (List.mem_cons_self ..) state,
      ih _ fun other member => everywhere other (List.mem_cons_of_mem _ member)⟩

/-- Events that meet some conditions meet weaker ones. -/
theorem admitted_mono {starts' : Activity → World → Prop} {admits' : S.Op → Choice → World → Prop}
    (service : Service S ε World Choice Activity) (events : List (Event Activity Choice))
    (state : Program S ε Unit × World)
    (weaker : ∀ event ∈ events, ∀ state : Program S ε Unit × World,
      Allows starts admits event state → Allows starts' admits' event state)
    (admitted : service.Admitted starts admits events state) :
    service.Admitted starts' admits' events state := by
  induction events generalizing state with
  | nil => trivial
  | cons event events ih =>
    exact ⟨weaker event (List.mem_cons_self ..) state admitted.1,
      ih _ (fun other member => weaker other (List.mem_cons_of_mem _ member)) admitted.2⟩

/-- The conditions on activities and on choices one by one. -/
theorem admitted_imp {starts' : Activity → World → Prop} {admits' : S.Op → Choice → World → Prop}
    (service : Service S ε World Choice Activity) (events : List (Event Activity Choice))
    (state : Program S ε Unit × World)
    (start : ∀ activity world, .start activity ∈ events → starts activity world →
      starts' activity world)
    (step : ∀ op choice world, .step choice ∈ events → admits op choice world →
      admits' op choice world)
    (admitted : service.Admitted starts admits events state) :
    service.Admitted starts' admits' events state := by
  refine service.admitted_mono events state ?_ admitted
  intro event member state allowed
  obtain ⟨program, world⟩ := state
  cases event with
  | start activity => exact start activity world member allowed
  | step choice =>
    cases program with
    | done value => trivial
    | raised problem => trivial
    | perform op next => exact step op choice world member allowed

/-- No conditions are met by every history. -/
theorem admitted_free (service : Service S ε World Choice Activity)
    (events : List (Event Activity Choice)) (state : Program S ε Unit × World) :
    service.Admitted (fun _ _ => True) (fun _ _ _ => True) events state := by
  refine service.admitted_of_forall events state fun event _ state => ?_
  obtain ⟨program, world⟩ := state
  cases event with
  | start activity => trivial
  | step choice => cases program <;> trivial

/-- Every event of the list meets the conditions where it happens. The condition on choices is the
one in force, which a starting activity replaces by its own: that one may depend on the activity
and on the world in which it starts. -/
def AdmittedFor (service : Service S ε World Choice Activity) (starts : Activity → World → Prop)
    (admits : Activity → World → S.Op → Choice → World → Prop) :
    List (Event Activity Choice) → (S.Op → Choice → World → Prop) →
      Program S ε Unit × World → Prop
  | [], _, _ => True
  | .start activity :: events, _, state =>
    starts activity state.2 ∧
      service.AdmittedFor starts admits events (admits activity (service.boot activity state.2))
        (service.handle (.start activity) state)
  | .step choice :: events, force, state =>
    Allows starts force (.step choice) state ∧
      service.AdmittedFor starts admits events force (service.handle (.step choice) state)

/-- One condition for all activities. -/
theorem Admitted.for {service : Service S ε World Choice Activity}
    {events : List (Event Activity Choice)} {state : Program S ε Unit × World}
    (admitted : service.Admitted starts admits events state) :
    service.AdmittedFor starts (fun _ _ => admits) events admits state := by
  induction events generalizing state with
  | nil => trivial
  | cons event events ih =>
    cases event with
    | start activity => exact ⟨admitted.1, ih admitted.2⟩
    | step choice => exact ⟨admitted.1, ih admitted.2⟩

/-- Choices that meet the condition in force wherever they are made, and what follows them. -/
theorem admittedFor_steps {service : Service S ε World Choice Activity}
    {admits : Activity → World → S.Op → Choice → World → Prop}
    {force : S.Op → Choice → World → Prop} {choices : List Choice}
    {events : List (Event Activity Choice)} {state : Program S ε Unit × World}
    (everywhere : ∀ choice ∈ choices, ∀ op world, force op choice world)
    (rest : service.AdmittedFor starts admits events force
      (service.run (choices.map .step) state)) :
    service.AdmittedFor starts admits (choices.map .step ++ events) force state := by
  induction choices generalizing state with
  | nil => exact rest
  | cons choice choices ih =>
    refine ⟨?_, ih (fun other member => everywhere other (List.mem_cons_of_mem _ member)) rest⟩
    obtain ⟨program, world⟩ := state
    cases program with
    | done value => trivial
    | raised problem => trivial
    | perform op next => exact everywhere choice (List.mem_cons_self ..) op world

variable {guarantee later : World → World → Prop} {I : World → Prop}

/-- What every activity keeps under its own condition is kept by the service along admitted
events: the invariant at every moment, and the relation from every moment to every later one. -/
theorem keeps_for (service : Service S ε World Choice Activity)
    {admits : Activity → World → S.Op → Choice → World → Prop}
    {force : S.Op → Choice → World → Prop} (tracks : Tracks guarantee later)
    (kept : ∀ before after, guarantee before after → I before → I after)
    (activities : ∀ activity world, I world → starts activity world →
      I (service.boot activity world) ∧ later world (service.boot activity world) ∧
        Meets service.machine
          (.sequential (admits activity (service.boot activity world)) guarantee)
          (fun _ _ => True) (fun _ _ => True) (service.code activity)
          (service.boot activity world))
    (events : List (Event Activity Choice)) (state : Program S ε Unit × World)
    (admitted : service.AdmittedFor starts admits events force state) (start : I state.2)
    (running : Meets service.machine (.sequential force guarantee)
      (fun _ _ => True) (fun _ _ => True) state.1 state.2) :
    I (service.run events state).2 ∧ later state.2 (service.run events state).2 ∧
      ∃ last, (last = force ∨ ∃ activity world, last = admits activity world) ∧
        Meets service.machine (.sequential last guarantee) (fun _ _ => True) (fun _ _ => True)
          (service.run events state).1 (service.run events state).2 := by
  induction events generalizing state force with
  | nil => exact ⟨start, tracks.refl _, force, Or.inl rfl, running⟩
  | cons event events ih =>
    cases event with
    | start activity =>
      obtain ⟨here, rest⟩ := admitted
      obtain ⟨start', booted, running'⟩ := activities activity state.2 start here
      obtain ⟨final, since, last, origin, ending⟩ := ih _ rest start' running'
      refine ⟨final, tracks.trans booted since, last, Or.inr ?_, ending⟩
      obtain same | other := origin
      · exact ⟨_, _, same⟩
      · exact other
    | step choice =>
      obtain ⟨here, rest⟩ := admitted
      have one : I (service.handle (.step choice) state).2 ∧
          later state.2 (service.handle (.step choice) state).2 ∧
          Meets service.machine (.sequential force guarantee) (fun _ _ => True)
            (fun _ _ => True) (service.handle (.step choice) state).1
            (service.handle (.step choice) state).2 := by
        obtain ⟨program, world⟩ := state
        cases program with
        | done value => exact ⟨start, tracks.refl _, running⟩
        | raised problem => exact ⟨start, tracks.refl _, running⟩
        | perform op next =>
          obtain ⟨moved, running'⟩ := running world rfl choice here
          exact ⟨kept _ _ moved start, tracks.step moved, running'⟩
      obtain ⟨start', moved, running'⟩ := one
      obtain ⟨final, since, ending⟩ := ih _ rest start' running'
      exact ⟨final, tracks.trans moved since, ending⟩

/-- What every activity keeps under the conditions is kept by the service along admitted
events: the invariant at every moment, and the relation from every moment to every later one. -/
theorem keeps_admitted (service : Service S ε World Choice Activity)
    (tracks : Tracks guarantee later)
    (kept : ∀ before after, guarantee before after → I before → I after)
    (activities : ∀ activity world, I world → starts activity world →
      I (service.boot activity world) ∧ later world (service.boot activity world) ∧
        Meets service.machine (.sequential admits guarantee) (fun _ _ => True)
          (fun _ _ => True) (service.code activity) (service.boot activity world))
    (events : List (Event Activity Choice)) (state : Program S ε Unit × World)
    (admitted : service.Admitted starts admits events state) (start : I state.2)
    (running : Meets service.machine (.sequential admits guarantee)
      (fun _ _ => True) (fun _ _ => True) state.1 state.2) :
    I (service.run events state).2 ∧ later state.2 (service.run events state).2 ∧
      Meets service.machine (.sequential admits guarantee) (fun _ _ => True)
        (fun _ _ => True) (service.run events state).1 (service.run events state).2 := by
  obtain ⟨final, since, last, origin, ending⟩ :=
    service.keeps_for tracks kept activities events state admitted.for start running
  obtain rfl | ⟨-, -, rfl⟩ := origin
  · exact ⟨final, since, ending⟩
  · exact ⟨final, since, ending⟩

/-- Without conditions: what every activity keeps is kept by the service. -/
theorem keeps (service : Service S ε World Choice Activity) (tracks : Tracks guarantee later)
    (kept : ∀ before after, guarantee before after → I before → I after)
    (activities : ∀ activity world, I world →
      I (service.boot activity world) ∧ later world (service.boot activity world) ∧
        Meets service.machine (.sequential (fun _ _ _ => True) guarantee) (fun _ _ => True)
          (fun _ _ => True) (service.code activity) (service.boot activity world))
    (events : List (Event Activity Choice)) (state : Program S ε Unit × World)
    (start : I state.2)
    (running : Meets service.machine (.sequential (fun _ _ _ => True) guarantee)
      (fun _ _ => True) (fun _ _ => True) state.1 state.2) :
    I (service.run events state).2 ∧ later state.2 (service.run events state).2 ∧
      Meets service.machine (.sequential (fun _ _ _ => True) guarantee) (fun _ _ => True)
        (fun _ _ => True) (service.run events state).1 (service.run events state).2 := by
  exact service.keeps_admitted tracks kept
    (fun activity world sound (_ : True) => activities activity world sound) events state
    (service.admitted_free events state) start running

end Service

end Effects

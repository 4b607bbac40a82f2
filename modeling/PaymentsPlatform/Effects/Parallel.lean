import PaymentsPlatform.Effects.Service

/-!
# Parallel parties

Parties run programs over one world, and their effects interleave in any order. An effect that has
to wait for another party leaves everything as it is. Each party has its contract: it relies on
what the others guarantee, and an effect is admitted when it need not wait and the invariant holds.
So the invariant holds at every moment, and from each moment to the next the world moves by the
guarantee of one party (`Parallel.chain`). A program that changes nothing until nothing can fail
any more (`AllOrNothing`) has changed nothing when it raises, whatever the others did meanwhile
(`Parallel.unchanged_of_raised`).
-/

namespace Effects

/-- A machine, the effects that need not wait, and the program of each activity a party may
start. -/
structure Parallel (S : Signature) (ε α World Choice Party Activity : Type) where
  /-- The effects. -/
  machine : Machine S ε World Choice
  /-- The effect need not wait, under the choice of the environment. -/
  ready : S.Op → Choice → World → Bool
  /-- The program of an activity. -/
  code : Party → Activity → Program S ε α

/-- Each effect of the program leaves what is seen of the world as it is, or is one after which
the program cannot raise. -/
def AllOrNothing {S : Signature} {ε α World Choice View : Type}
    (machine : Machine S ε World Choice) (contract : Contract S World Choice)
    (seen : World → View) : Program S ε α → World → Prop
  | .done _, _ => True
  | .raised _, _ => True
  | .perform op next, world =>
    ∀ moved, contract.rely world moved → ∀ choice, contract.admits op choice moved →
      (seen (machine.act op choice moved).2 = seen moved ∧
        AllOrNothing machine contract seen (next (machine.act op choice moved).1)
          (machine.act op choice moved).2) ∨
      Meets machine contract (fun _ _ => True) (fun _ _ => False)
        (next (machine.act op choice moved).1) (machine.act op choice moved).2

namespace AllOrNothing

variable {S : Signature} {ε α β World Choice View : Type}
  {machine : Machine S ε World Choice} {contract : Contract S World Choice}
  {seen : World → View} {world : World}

/-- A part that changes nothing, followed by a program that changes all or nothing. -/
theorem after {program : Program S ε α} {next : α → Program S ε β}
    (first : Meets machine
      { contract with guarantee := fun before after => seen after = seen before }
      (fun value world => AllOrNothing machine contract seen (next value) world) (fun _ _ => True)
      program world) :
    AllOrNothing machine contract seen (program.bind next) world := by
  induction program generalizing world with
  | done value => exact first
  | raised problem => trivial
  | perform op rest ih =>
    intro moved others choice admitted
    obtain ⟨kept, later⟩ := first moved others choice admitted
    exact Or.inl ⟨kept, ih _ later⟩

/-- One effect, after whose change the program cannot raise. -/
theorem request {op : S.Op} {next : S.Answer op → Program S ε β}
    (each : ∀ moved, contract.rely world moved → ∀ choice, contract.admits op choice moved →
      match (machine.act op choice moved).1 with
      | .ok answer =>
        (seen (machine.act op choice moved).2 = seen moved ∧
          AllOrNothing machine contract seen (next answer) (machine.act op choice moved).2) ∨
        Meets machine contract (fun _ _ => True) (fun _ _ => False) (next answer)
          (machine.act op choice moved).2
      | .error _ => seen (machine.act op choice moved).2 = seen moved) :
    AllOrNothing machine contract seen ((Program.request op).bind next) world := by
  intro moved others choice admitted
  have here := each moved others choice admitted
  cases outcome : (machine.act op choice moved).1 with
  | ok answer =>
    rw [outcome] at here
    exact here
  | error problem =>
    rw [outcome] at here
    exact Or.inl ⟨here, trivial⟩

/-- A last effect that changes nothing when it fails. -/
theorem last {op : S.Op}
    (each : ∀ moved, contract.rely world moved → ∀ choice, contract.admits op choice moved →
      ∀ problem, (machine.act op choice moved).1 = .error problem →
        seen (machine.act op choice moved).2 = seen moved) :
    AllOrNothing machine contract seen (Program.request op) world := by
  intro moved others choice admitted
  have here := each moved others choice admitted
  cases outcome : (machine.act op choice moved).1 with
  | ok answer => exact Or.inr trivial
  | error problem => exact Or.inl ⟨here problem outcome, trivial⟩

end AllOrNothing

/-- Contracts of parties that keep each other's: what one guarantees the others may rely on, and
the invariant is kept by all. -/
structure Compatible {S : Signature} {World Choice Party : Type}
    (contract : Party → Contract S World Choice) (I : World → Prop) : Prop where
  /-- Nothing may have happened. -/
  refl : ∀ party world, (contract party).rely world world
  /-- What happened adds up. -/
  trans : ∀ party {first second third}, (contract party).rely first second →
    (contract party).rely second third → (contract party).rely first third
  /-- What one party guarantees the others rely on. -/
  others : ∀ {party other before after}, other ≠ party →
    (contract other).guarantee before after → (contract party).rely before after
  /-- Every party keeps the invariant. -/
  kept : ∀ party {before after}, (contract party).guarantee before after → I before → I after

namespace Parallel

variable {S : Signature} {ε α World Choice Activity Party View : Type} [DecidableEq Party]

/-- One event of one party: it starts an activity, or its program performs an effect. -/
def handle (parallel : Parallel S ε α World Choice Party Activity)
    (event : Party × Event Activity Choice)
    (state : (Party → Option (Program S ε α)) × World) :
    (Party → Option (Program S ε α)) × World :=
  match event.2 with
  | .start activity =>
    (Function.update state.1 event.1 (some (parallel.code event.1 activity)), state.2)
  | .step choice =>
    match state.1 event.1 with
    | some (.perform op next) =>
      if parallel.ready op choice state.2 then
        let result := parallel.machine.act op choice state.2
        (Function.update state.1 event.1 (some (next result.1)), result.2)
      else state
    | _ => state

/-- The state after a list of events. -/
def run (parallel : Parallel S ε α World Choice Party Activity)
    (events : List (Party × Event Activity Choice))
    (state : (Party → Option (Program S ε α)) × World) :
    (Party → Option (Program S ε α)) × World :=
  events.foldl (fun state event => parallel.handle event state) state

/-- The worlds before, between and after the events. -/
def moments (parallel : Parallel S ε α World Choice Party Activity) :
    List (Party × Event Activity Choice) → (Party → Option (Program S ε α)) × World → List World
  | [], state => [state.2]
  | event :: events, state => state.2 :: parallel.moments events (parallel.handle event state)

variable (parallel : Parallel S ε α World Choice Party Activity)
  {contract : Party → Contract S World Choice} {I : World → Prop}
  {state : (Party → Option (Program S ε α)) × World}

/-- The invariant holds, and every program meets the contract of its party from a world the others
may have changed into this one. -/
structure Standing (contract : Party → Contract S World Choice) (I : World → Prop)
    (state : (Party → Option (Program S ε α)) × World) : Prop where
  /-- The invariant. -/
  sound : I state.2
  /-- The programs. -/
  programs : ∀ party program, state.1 party = some program →
    ∃ origin, (contract party).rely origin state.2 ∧
      Meets parallel.machine (contract party) (fun _ _ => True) (fun _ _ => True) program origin

@[simp] theorem run_nil : parallel.run ([] : List (Party × Event Activity Choice)) state = state :=
  rfl

@[simp] theorem run_cons (event : Party × Event Activity Choice)
    (events : List (Party × Event Activity Choice)) :
    parallel.run (event :: events) state = parallel.run events (parallel.handle event state) := rfl

/-- Events in two parts. -/
theorem run_append (events more : List (Party × Event Activity Choice)) :
    parallel.run (events ++ more) state = parallel.run more (parallel.run events state) := by
  unfold run
  rw [List.foldl_append]

omit [DecidableEq Party] in
/-- Idle parties stand. -/
theorem standing_idle {world : World} (sound : I world) :
    parallel.Standing contract I ((fun _ => none : Party → Option (Program S ε α)), world) where
  sound := sound
  programs party program running := by cases running

/-- The programs stand in a later world, where one party has a new program that stands. -/
theorem standing_update (compatible : Compatible contract I) {actor : Party}
    {program : Program S ε α} {after : World} (standing : parallel.Standing contract I state)
    (sound : I after)
    (later : ∀ party, party ≠ actor → (contract party).rely state.2 after)
    (stands : ∃ origin, (contract actor).rely origin after ∧
      Meets parallel.machine (contract actor) (fun _ _ => True) (fun _ _ => True) program
        origin) :
    parallel.Standing contract I (Function.update state.1 actor (some program), after) where
  sound := sound
  programs party other running := by
    by_cases same : party = actor
    · subst same
      simp only [Function.update_self, Option.some.injEq] at running
      rw [← running]
      exact stands
    · simp only [Function.update_of_ne same] at running
      obtain ⟨origin, since, meets⟩ := standing.programs party other running
      exact ⟨origin, compatible.trans party since (later party same), meets⟩

/-- A step of a program that has ended or has to wait. -/
theorem handle_idle {party : Party} (choice : Choice) {program : Program S ε α}
    (running : state.1 party = some program)
    (idle : ∀ op next, program = .perform op next →
      parallel.ready op choice state.2 = false) :
    parallel.handle (party, .step choice) state = state := by
  simp only [handle, running]
  split
  · rename_i op next same
    rw [if_neg (by rw [idle op next (Option.some.inj same)]; exact Bool.false_ne_true)]
  · rfl

/-- A step of a program whose effect need not wait. -/
theorem handle_perform {party : Party} (choice : Choice) {op : S.Op}
    {next : Except ε (S.Answer op) → Program S ε α}
    (running : state.1 party = some (.perform op next))
    (ready : parallel.ready op choice state.2 = true) :
    parallel.handle (party, .step choice) state =
      (Function.update state.1 party (some (next (parallel.machine.act op choice state.2).1)),
        (parallel.machine.act op choice state.2).2) := by
  simp only [handle, running, ready, if_true]

section

variable (compatible : Compatible contract I)
  (free : ∀ party op choice world, I world →
    parallel.ready op choice world = true →
    (contract party).admits op choice world)
  (activities : ∀ party activity world, I world → Meets parallel.machine (contract party)
    (fun _ _ => True) (fun _ _ => True) (parallel.code party activity) world)
include compatible free activities

/-- One event keeps every contract, and the world moves by the guarantee of the acting party or not
at all. -/
theorem standing_handle (event : Party × Event Activity Choice)
    (standing : parallel.Standing contract I state) :
    parallel.Standing contract I (parallel.handle event state) ∧
      ((parallel.handle event state).2 = state.2 ∨
        (contract event.1).guarantee state.2 (parallel.handle event state).2) := by
  obtain ⟨actor, happened⟩ := event
  cases happened with
  | start activity =>
    exact ⟨parallel.standing_update compatible standing standing.sound
      (fun party _ => compatible.refl party _)
      ⟨state.2, compatible.refl actor _, activities actor activity _ standing.sound⟩, Or.inl rfl⟩
  | step choice =>
    cases current : state.1 actor with
    | none =>
      simp only [handle, current]
      exact ⟨standing, Or.inl trivial⟩
    | some program =>
      by_cases waits : ∀ op next, program = .perform op next →
          parallel.ready op choice state.2 = false
      · rw [parallel.handle_idle choice current waits]
        exact ⟨standing, Or.inl rfl⟩
      · simp only [not_forall, Bool.not_eq_false] at waits
        obtain ⟨op, next, rfl, ready⟩ := waits
        rw [parallel.handle_perform choice current ready]
        obtain ⟨origin, since, meets⟩ := standing.programs actor _ current
        obtain ⟨kept, rest⟩ := meets state.2 since choice
          (free actor op choice state.2 standing.sound ready)
        refine ⟨parallel.standing_update compatible standing
          (compatible.kept actor kept standing.sound) ?_ ⟨_, compatible.refl actor _, rest⟩,
          Or.inr kept⟩
        intro party other
        exact compatible.others (Ne.symm other) kept

/-- A list of events keeps every contract. -/
theorem standing_run (events : List (Party × Event Activity Choice))
    (standing : parallel.Standing contract I state) :
    parallel.Standing contract I (parallel.run events state) := by
  induction events generalizing state with
  | nil => exact standing
  | cons event events ih =>
    exact ih (parallel.standing_handle compatible free activities event standing).1

/-- From every moment to the next one the world moves by the guarantee of a party or not at
all. -/
theorem chain (events : List (Party × Event Activity Choice))
    (standing : parallel.Standing contract I state) :
    (parallel.moments events state).IsChain (fun before after =>
      after = before ∨ ∃ party, (contract party).guarantee before after) := by
  induction events generalizing state with
  | nil => exact List.isChain_singleton _
  | cons event events ih =>
    obtain ⟨standing', moved⟩ :=
      parallel.standing_handle compatible free activities event standing
    have rest := ih standing'
    have moved' : (parallel.handle event state).2 = state.2 ∨
        ∃ party, (contract party).guarantee state.2 (parallel.handle event state).2 :=
      moved.imp_right fun kept => ⟨event.1, kept⟩
    cases events with
    | nil => exact List.isChain_pair.mpr moved'
    | cons following events => exact List.isChain_cons_cons.mpr ⟨moved', rest⟩

/-- The world after more events is later, as far as every guarantee says so. -/
theorem later_run {later : World → World → Prop}
    (tracks : Tracks (fun before after => ∃ party, (contract party).guarantee before after) later)
    (events : List (Party × Event Activity Choice))
    (standing : parallel.Standing contract I state) :
    later state.2 (parallel.run events state).2 := by
  induction events generalizing state with
  | nil => exact tracks.refl _
  | cons event events ih =>
    obtain ⟨standing', moved⟩ :=
      parallel.standing_handle compatible free activities event standing
    refine tracks.trans ?_ (ih standing')
    rcases moved with same | kept
    · rw [same]
      exact tracks.refl _
    · exact tracks.step ⟨event.1, kept⟩

/-- An event of another party leaves the program of a party, in a world the party relies on. -/
theorem handle_other {party : Party} {event : Party × Event Activity Choice}
    (other : event.1 ≠ party) (standing : parallel.Standing contract I state) :
    (parallel.handle event state).1 party = state.1 party ∧
      (contract party).rely state.2 (parallel.handle event state).2 := by
  constructor
  · unfold handle
    split
    · exact Function.update_of_ne (Ne.symm other) _ _
    · split
      · split
        · exact Function.update_of_ne (Ne.symm other) _ _
        · rfl
      · rfl
  · obtain ⟨-, moved⟩ := parallel.standing_handle compatible free activities event standing
    rcases moved with same | kept
    · rw [same]
      exact compatible.refl party _
    · exact compatible.others other kept

variable {party : Party} {own : Contract S World Choice} (same : own.rely = (contract party).rely)
include same

/-- A program that cannot raise has not raised at any later moment. -/
theorem not_raised (during : List (Party × Event Activity Choice))
    (standing : parallel.Standing contract I state)
    (going : ∀ activity, (party, .start activity) ∉ during)
    (admitted : ∀ choice, (party, .step choice) ∈ during → ∀ op world,
      (contract party).admits op choice world → own.admits op choice world)
    {program : Program S ε α} (running : state.1 party = some program)
    (safe : ∃ origin, (contract party).rely origin state.2 ∧ Meets parallel.machine own
      (fun _ _ => True) (fun _ _ => False) program origin) (problem : ε) :
    (parallel.run during state).1 party ≠ some (.raised problem) := by
  induction during generalizing state program with
  | nil =>
    intro ended
    obtain ⟨origin, -, meets⟩ := safe
    rw [run_nil, running, Option.some.injEq] at ended
    rw [ended] at meets
    exact meets
  | cons event during ih =>
    obtain ⟨standing', -⟩ := parallel.standing_handle compatible free activities event standing
    have going' : ∀ activity, (party, .start activity) ∉ during := fun activity member =>
      going activity (List.mem_cons_of_mem _ member)
    have admitted' : ∀ choice, (party, .step choice) ∈ during → ∀ op world,
        (contract party).admits op choice world → own.admits op choice world :=
      fun choice member => admitted choice (List.mem_cons_of_mem _ member)
    obtain ⟨origin, since, meets⟩ := safe
    rw [run_cons]
    by_cases other : event.1 ≠ party
    · obtain ⟨kept, moved⟩ := parallel.handle_other compatible free activities other standing
      exact ih standing' going' admitted' (kept.trans running)
        ⟨origin, compatible.trans party since moved, meets⟩
    · obtain ⟨actor, happened⟩ := event
      have here : actor = party := not_not.mp other
      subst here
      cases happened with
      | start activity => exact absurd (List.mem_cons_self ..) (going activity)
      | step choice =>
        by_cases waits : ∀ op next, program = .perform op next →
            parallel.ready op choice state.2 = false
        · rw [parallel.handle_idle choice running waits]
          exact ih standing going' admitted' running ⟨origin, since, meets⟩
        · simp only [not_forall, Bool.not_eq_false] at waits
          obtain ⟨op, next, rfl, ready⟩ := waits
          have after := parallel.handle_perform choice running ready
          have now : (parallel.handle (actor, .step choice) state).1 actor =
              some (next (parallel.machine.act op choice state.2).1) := by
            rw [after]
            exact Function.update_self ..
          have admits := admitted choice (List.mem_cons_self ..) op state.2
            (free actor op choice state.2 standing.sound ready)
          rw [← same] at since
          obtain ⟨-, rest⟩ := meets state.2 since choice admits
          refine ih standing' going' admitted' now ⟨_, ?_, rest⟩
          rw [after]
          exact compatible.refl actor _

/-- A program that changes all or nothing has changed nothing when it raises. -/
theorem unchanged_of_raised {seen : World → View} (during : List (Party × Event Activity Choice))
    (standing : parallel.Standing contract I state)
    (going : ∀ activity, (party, .start activity) ∉ during)
    (admitted : ∀ choice, (party, .step choice) ∈ during → ∀ op world,
      (contract party).admits op choice world → own.admits op choice world)
    {program : Program S ε α} (running : state.1 party = some program)
    (atomic : ∃ origin, (contract party).rely origin state.2 ∧
      AllOrNothing parallel.machine own seen program origin)
    {problem : ε} (ended : (parallel.run during state).1 party = some (.raised problem))
    (first rest : List (Party × Event Activity Choice)) (choice : Choice)
    (split : during = first ++ (party, .step choice) :: rest) :
    seen (parallel.run (first ++ [(party, .step choice)]) state).2 =
      seen (parallel.run first state).2 := by
  induction during generalizing state program first with
  | nil =>
    have impossible := congrArg List.length split
    simp at impossible
  | cons event during ih =>
    obtain ⟨standing', -⟩ := parallel.standing_handle compatible free activities event standing
    have going' : ∀ activity, (party, .start activity) ∉ during := fun activity member =>
      going activity (List.mem_cons_of_mem _ member)
    have admitted' : ∀ choice, (party, .step choice) ∈ during → ∀ op world,
        (contract party).admits op choice world → own.admits op choice world :=
      fun choice member => admitted choice (List.mem_cons_of_mem _ member)
    obtain ⟨origin, since, clean⟩ := atomic
    rw [run_cons] at ended
    -- the step in question is this event, or it comes later
    have later : ∀ {program : Program S ε α},
        (parallel.handle event state).1 party = some program →
        (∃ origin, (contract party).rely origin (parallel.handle event state).2 ∧
          AllOrNothing parallel.machine own seen program origin) →
        (event = (party, .step choice) →
          seen (parallel.handle event state).2 = seen state.2) →
        seen (parallel.run (first ++ [(party, .step choice)]) state).2 =
          seen (parallel.run first state).2 := by
      intro program running atomic here
      cases first with
      | nil =>
        rw [List.nil_append, List.cons.injEq] at split
        have still := here split.1
        rw [split.1] at still
        exact still
      | cons event' first =>
        rw [List.cons_append, List.cons.injEq] at split
        rw [List.cons_append, run_cons, run_cons, ← split.1]
        exact ih standing' going' admitted' running atomic ended first split.2
    by_cases other : event.1 ≠ party
    · obtain ⟨kept, moved⟩ := parallel.handle_other compatible free activities other standing
      refine later (kept.trans running) ⟨origin, compatible.trans party since moved, clean⟩ ?_
      intro here
      rw [here] at other
      exact absurd rfl other
    · obtain ⟨actor, happened⟩ := event
      have here : actor = party := not_not.mp other
      subst here
      cases happened with
      | start activity => exact absurd (List.mem_cons_self ..) (going activity)
      | step made =>
        by_cases waits : ∀ op next, program = .perform op next →
            parallel.ready op made state.2 = false
        · have still := parallel.handle_idle made running waits
          rw [still] at later
          exact later running ⟨origin, since, clean⟩ fun _ => rfl
        · simp only [not_forall, Bool.not_eq_false] at waits
          obtain ⟨op, next, rfl, ready⟩ := waits
          have after := parallel.handle_perform made running ready
          have now : (parallel.handle (actor, .step made) state).1 actor =
              some (next (parallel.machine.act op made state.2).1) := by
            rw [after]
            exact Function.update_self ..
          have here : (parallel.handle (actor, .step made) state).2 =
              (parallel.machine.act op made state.2).2 := congrArg Prod.snd after
          have admits := admitted made (List.mem_cons_self ..) op state.2
            (free actor op made state.2 standing.sound ready)
          rw [← same] at since
          rcases clean state.2 since made admits with ⟨still, clean'⟩ | safe
          · refine later now ⟨_, ?_, clean'⟩ fun _ => here ▸ still
            rw [here]
            exact compatible.refl actor _
          · refine absurd ended (parallel.not_raised compatible free activities same during
              standing' going' admitted' now ⟨_, ?_, safe⟩ problem)
            rw [here]
            exact compatible.refl actor _

end

end Parallel

end Effects

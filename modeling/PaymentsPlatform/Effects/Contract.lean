import PaymentsPlatform.Effects.Program

/-!
# Contracts of programs

`Meets` says what holds of a program at every moment of every run from one world: each
effect it performs stays inside the guarantee, a normal end satisfies the postcondition and
an error satisfies the error condition. Between two effects other parties may change the
world as far as the rely condition says; a sequential program relies on nobody
(`Contract.sequential`). The definition follows the program tree, so the rules below follow
the constructs programs are written with, and `Meets.run` carries a contract to the state
after any list of admitted choices.
-/

namespace Effects

/-- The conditions of one party: the choices admitted of the environment, the changes other
parties may make between two effects, and the changes an effect of the party may make. -/
structure Contract (S : Signature) (World Choice : Type) where
  /-- Whether the environment may make this choice for this effect in this world. -/
  admits : S.Op → Choice → World → Prop
  /-- A change other parties may make. -/
  rely : World → World → Prop
  /-- A change an effect of the party may make. -/
  guarantee : World → World → Prop

/-- Nobody else changes the world between two effects. -/
def Contract.sequential {S : Signature} {World Choice : Type}
    (admits : S.Op → Choice → World → Prop) (guarantee : World → World → Prop) :
    Contract S World Choice := ⟨admits, Eq, guarantee⟩

variable {S : Signature} {ε α β World Choice : Type}

/-- Every run of the program from the world keeps the contract and ends as stated. -/
def Meets (machine : Machine S ε World Choice) (contract : Contract S World Choice)
    (post : α → World → Prop) (error : ε → World → Prop) :
    Program S ε α → World → Prop
  | .done value, world => post value world
  | .raised problem, world => error problem world
  | .perform op next, world =>
    ∀ moved, contract.rely world moved → ∀ choice, contract.admits op choice moved →
      contract.guarantee moved (machine.act op choice moved).2 ∧
        Meets machine contract post error (next (machine.act op choice moved).1)
          (machine.act op choice moved).2

namespace Meets

variable {machine : Machine S ε World Choice} {contract : Contract S World Choice}
  {post post' : α → World → Prop} {error error' : ε → World → Prop}
  {program : Program S ε α} {world : World}

/-- Weaker end conditions are met as well. -/
theorem mono (meets : Meets machine contract post error program world)
    (post_le : ∀ value world, post value world → post' value world)
    (error_le : ∀ problem world, error problem world → error' problem world) :
    Meets machine contract post' error' program world := by
  induction program generalizing world with
  | done value => exact post_le _ _ meets
  | raised problem => exact error_le _ _ meets
  | perform op next ih =>
    intro moved others choice admitted
    obtain ⟨kept, rest⟩ := meets moved others choice admitted
    exact ⟨kept, ih _ rest⟩

/-- A contract that admits less, relies on less and guarantees more implies one that does
not. -/
theorem transfer {weaker : Contract S World Choice}
    (meets : Meets machine contract post error program world)
    (admits_le : ∀ op choice world, weaker.admits op choice world →
      contract.admits op choice world)
    (rely_le : ∀ before after, weaker.rely before after → contract.rely before after)
    (guarantee_le : ∀ before after, contract.guarantee before after →
      weaker.guarantee before after) :
    Meets machine weaker post error program world := by
  induction program generalizing world with
  | done value => exact meets
  | raised problem => exact meets
  | perform op next ih =>
    intro moved others choice admitted
    obtain ⟨kept, rest⟩ :=
      meets moved (rely_le _ _ others) choice (admits_le _ _ _ admitted)
    exact ⟨guarantee_le _ _ kept, ih _ rest⟩

/-- Sequencing: the second program meets the contract wherever the first one ends. -/
theorem bind {next : α → Program S ε β} {post : β → World → Prop}
    (meets : Meets machine contract
      (fun value world => Meets machine contract post error (next value) world) error
      program world) :
    Meets machine contract post error (program.bind next) world := by
  induction program generalizing world with
  | done value => exact meets
  | raised problem => exact meets
  | perform op rest ih =>
    intro moved others choice admitted
    obtain ⟨kept, later⟩ := meets moved others choice admitted
    exact ⟨kept, ih _ later⟩

/-- Handling: the handler meets the contract wherever the program raises. -/
theorem handle {handler : ε → Program S ε α}
    (meets : Meets machine contract post
      (fun problem world => Meets machine contract post error (handler problem) world)
      program world) :
    Meets machine contract post error (program.handle handler) world := by
  induction program generalizing world with
  | done value => exact meets
  | raised problem => exact meets
  | perform op rest ih =>
    intro moved others choice admitted
    obtain ⟨kept, later⟩ := meets moved others choice admitted
    exact ⟨kept, ih _ later⟩

/-- The outcome of a program: both ends are values. -/
theorem outcome {post : Except ε α → World → Prop}
    (meets : Meets machine contract (fun value world => post (.ok value) world)
      (fun problem world => post (.error problem) world) program world) :
    Meets machine contract post error program.outcome world :=
  handle (bind (meets.mono (fun _ _ ends => ends) fun _ _ ends => ends))

/-- A cleanup meets the contract after either end, and keeps that end's condition. -/
theorem ensure {cleanup : Program S ε Unit}
    (meets : Meets machine contract
      (fun value world => Meets machine contract (fun _ => post value) error cleanup world)
      (fun problem world => Meets machine contract (fun _ => error problem) error cleanup world)
      program world) :
    Meets machine contract post error (program.ensure cleanup) world := by
  refine bind (handle (bind (meets.mono ?_ ?_)))
  · intro value world after
    exact bind after
  · intro problem world after
    exact bind after

/-- One effect, from what it guarantees and where it leads. -/
theorem request {op : S.Op} {post : S.Answer op → World → Prop}
    (each : ∀ moved, contract.rely world moved → ∀ choice, contract.admits op choice moved →
      contract.guarantee moved (machine.act op choice moved).2 ∧
        (match (machine.act op choice moved).1 with
        | .ok answer => post answer (machine.act op choice moved).2
        | .error problem => error problem (machine.act op choice moved).2)) :
    Meets machine contract post error (Program.request op) world := by
  intro moved others choice admitted
  obtain ⟨kept, ends⟩ := each moved others choice admitted
  refine ⟨kept, ?_⟩
  cases outcome : (machine.act op choice moved).1 with
  | ok answer => simpa [outcome, Meets] using ends
  | error problem => simpa [outcome, Meets] using ends

/-- Bounded retries: the operation meets its conditions from every world of `R`, every
retryable error leads back into `R`, and running out of attempts is an error as well. -/
theorem retryCall {retryable : ε → Bool} {exhausted : Nat → ε} {attempts : Nat}
    {operation : Program S ε α} {R : World → Prop}
    (meets : ∀ world, R world → Meets machine contract post error operation world)
    (again : ∀ problem world, retryable problem = true → error problem world → R world)
    (spent : ∀ count problem world, retryable problem = true → error problem world →
      error (exhausted count) world)
    (start : R world) :
    Meets machine contract post error
      (Program.retryCall retryable exhausted attempts operation) world := by
  unfold Program.retryCall
  generalize attempts - 1 = left
  generalize 1 = attempt
  induction left generalizing world attempt with
  | zero =>
    refine handle ((meets world start).mono (fun _ _ ends => ends) ?_)
    intro problem world failed
    split
    · rename_i worth
      exact spent attempt problem world worth failed
    · exact failed
  | succ left ih =>
    refine handle ((meets world start).mono (fun _ _ ends => ends) ?_)
    intro problem world failed
    split
    · rename_i worth
      exact ih (again problem world worth failed) (attempt + 1)
    · exact failed

/-- A computation without effects ends at once, with its value or its error. -/
theorem ofExcept {outcome : Except ε α}
    (value_ok : ∀ value, outcome = .ok value → post value world)
    (error_ok : ∀ problem, outcome = .error problem → error problem world) :
    Meets machine contract post error (Program.ofExcept outcome) world := by
  cases outcome with
  | ok value => exact value_ok value rfl
  | error problem => exact error_ok problem rfl

end Meets

/-- A relation that follows a guarantee through any number of effects. -/
structure Tracks (guarantee later : World → World → Prop) : Prop where
  /-- Nothing may have happened. -/
  refl : ∀ world, later world world
  /-- What happened adds up. -/
  trans : ∀ {first second third}, later first second → later second third → later first third
  /-- One effect is enough. -/
  step : ∀ {before after}, guarantee before after → later before after

namespace Meets

variable {machine : Machine S ε World Choice} {admits : S.Op → Choice → World → Prop}
  {guarantee later : World → World → Prop} {error error' : ε → World → Prop}
  {program : Program S ε α} {world : World}

/-- The end of a program is later than its start. -/
theorem along {post : α → World → Prop} (tracks : Tracks guarantee later)
    (meets : Meets machine (.sequential admits guarantee) post error program world) :
    Meets machine (.sequential admits guarantee)
      (fun value end' => later world end' ∧ post value end')
      (fun problem end' => later world end' ∧ error problem end') program world := by
  suffices general : ∀ start, later start world →
      Meets machine (.sequential admits guarantee)
        (fun value end' => later start end' ∧ post value end')
        (fun problem end' => later start end' ∧ error problem end') program world from
    general world (tracks.refl world)
  intro start since
  induction program generalizing world with
  | done value => exact ⟨since, meets⟩
  | raised problem => exact ⟨since, meets⟩
  | perform op next ih =>
    rintro moved ⟨rfl⟩ choice admitted
    obtain ⟨kept, rest⟩ := meets world rfl choice admitted
    exact ⟨kept, ih _ rest (tracks.trans since (tracks.step kept))⟩

/-- Sequencing, where the second program starts later than the first. -/
theorem seq {middle : α → World → Prop} {post : β → World → Prop} {next : α → Program S ε β}
    (tracks : Tracks guarantee later)
    (first : Meets machine (.sequential admits guarantee) middle error program world)
    (rest : ∀ value end', later world end' → middle value end' →
      Meets machine (.sequential admits guarantee) post error (next value) end') :
    Meets machine (.sequential admits guarantee) post error (program.bind next) world :=
  bind ((along tracks first).mono (fun value end' ends => rest value end' ends.1 ends.2)
    fun _ _ ends => ends.2)

/-- Handling, where the handler starts later than the program. -/
theorem recover {post : α → World → Prop} {handler : ε → Program S ε α}
    (tracks : Tracks guarantee later)
    (first : Meets machine (.sequential admits guarantee) post error' program world)
    (rest : ∀ problem end', later world end' → error' problem end' →
      Meets machine (.sequential admits guarantee) post error (handler problem) end') :
    Meets machine (.sequential admits guarantee) post error (program.handle handler) world :=
  handle ((along tracks first).mono (fun _ _ ends => ends.2)
    fun problem end' ends => rest problem end' ends.1 ends.2)

end Meets

/-- Every choice of the list is admitted where it is made. -/
def Admitted (machine : Machine S ε World Choice) (admits : S.Op → Choice → World → Prop) :
    List Choice → Program S ε α × World → Prop
  | [], _ => True
  | choice :: choices, (.perform op next, world) =>
    admits op choice world ∧
      Admitted machine admits choices (machine.step choice (.perform op next, world))
  | _ :: _, _ => True

/-- A contract holds on along every run of admitted choices, and the world moves only by the
guarantee. -/
theorem Meets.run {machine : Machine S ε World Choice}
    {admits : S.Op → Choice → World → Prop} {guarantee : World → World → Prop}
    {post : α → World → Prop} {error : ε → World → Prop} {program : Program S ε α}
    {world : World} (choices : List Choice)
    (meets : Meets machine (.sequential admits guarantee) post error program world)
    (admitted : Admitted machine admits choices (program, world)) :
    Meets machine (.sequential admits guarantee) post error
        (machine.run choices (program, world)).1 (machine.run choices (program, world)).2 ∧
      Relation.ReflTransGen guarantee world (machine.run choices (program, world)).2 := by
  induction choices generalizing program world with
  | nil => exact ⟨meets, .refl⟩
  | cons choice choices ih =>
    cases program with
    | done value => rw [Machine.run_finished _ _ _ rfl]; exact ⟨meets, .refl⟩
    | raised problem => rw [Machine.run_finished _ _ _ rfl]; exact ⟨meets, .refl⟩
    | perform op next =>
      obtain ⟨kept, rest⟩ := meets world rfl choice admitted.1
      obtain ⟨later, path⟩ := ih rest admitted.2
      exact ⟨later, .head kept path⟩

/-- A program that uses only effects that keep the guarantee keeps it. -/
theorem Meets.of_uses {machine : Machine S ε World Choice} {contract : Contract S World Choice}
    {allowed : S.Op → Prop} {program : Program S ε α} (uses : program.Uses allowed)
    (each : ∀ op, allowed op → ∀ choice world,
      contract.guarantee world (machine.act op choice world).2) (world : World) :
    Meets machine contract (fun _ _ => True) (fun _ _ => True) program world := by
  induction program generalizing world with
  | done value => trivial
  | raised problem => trivial
  | perform op next ih =>
    intro moved _ choice _
    exact ⟨each op uses.1 choice moved, ih _ (uses.2 _) _⟩

/-- A program that uses only effects that keep an invariant, and the guarantee where it holds, keeps
both. -/
theorem Meets.of_uses_with {machine : Machine S ε World Choice}
    {admits : S.Op → Choice → World → Prop} {guarantee : World → World → Prop} {I : World → Prop}
    {allowed : S.Op → Prop} {program : Program S ε α} {world : World}
    (uses : program.Uses allowed)
    (each : ∀ op, allowed op → ∀ choice world, I world →
      guarantee world (machine.act op choice world).2 ∧ I (machine.act op choice world).2)
    (start : I world) :
    Meets machine (.sequential admits guarantee) (fun _ => I) (fun _ => I) program world := by
  induction program generalizing world with
  | done value => exact start
  | raised problem => exact start
  | perform op next ih =>
    rintro moved ⟨rfl⟩ choice -
    obtain ⟨kept, here⟩ := each op uses.1 choice world start
    exact ⟨kept, ih _ (uses.2 _) here⟩

/-- A program that uses only effects that leave the world as it is leaves it as it is. -/
theorem Program.Uses.run_world {machine : Machine S ε World Choice} {allowed : S.Op → Prop}
    {program : Program S ε α} (uses : program.Uses allowed)
    (each : ∀ op, allowed op → ∀ choice world, (machine.act op choice world).2 = world)
    (choices : List Choice) (world : World) :
    (machine.run choices (program, world)).2 = world := by
  induction choices generalizing program with
  | nil => rfl
  | cons choice choices ih =>
    cases program with
    | done value => exact ih uses
    | raised problem => exact ih uses
    | perform op next =>
      rw [Machine.run_cons, Machine.step, each op uses.1]
      exact ih (uses.2 _)

/-- A contract carries over to another one that agrees with it on the effects a program uses. -/
theorem Meets.within {machine : Machine S ε World Choice}
    {contract other : Contract S World Choice} {allowed : S.Op → Prop} {post : α → World → Prop}
    {error : ε → World → Prop} {program : Program S ε α} {world : World}
    (meets : Meets machine contract post error program world) (uses : program.Uses allowed)
    (rely_le : ∀ before after, other.rely before after → contract.rely before after)
    (admits_le : ∀ op, allowed op → ∀ choice world, other.admits op choice world →
      contract.admits op choice world)
    (each : ∀ op, allowed op → ∀ choice world,
      other.guarantee world (machine.act op choice world).2) :
    Meets machine other post error program world := by
  induction program generalizing world with
  | done value => exact meets
  | raised problem => exact meets
  | perform op next ih =>
    intro moved others choice admitted
    exact ⟨each op uses.1 choice moved, ih _ (meets moved (rely_le _ _ others) choice
      (admits_le op uses.1 choice moved admitted)).2 (uses.2 _)⟩

/-- The end of a program that ends exactly with the last choice is as its contract says. -/
theorem Meets.finish {machine : Machine S ε World Choice} {guarantee : World → World → Prop}
    {post : α → World → Prop} {error : ε → World → Prop} {program : Program S ε α}
    {world after : World} {choices : List Choice} {value : α}
    (meets : Meets machine (.sequential (fun _ choice _ => choice ∈ choices) guarantee) post error
      program world)
    (finished : machine.finish choices (program, world) = some (value, after)) :
    post value after := by
  suffices general : ∀ made : List Choice, (∀ choice ∈ made, choice ∈ choices) →
      machine.finish made (program, world) = some (value, after) → post value after from
    general choices (fun _ member => member) finished
  intro made within ended
  clear finished
  induction made generalizing program world with
  | nil =>
    cases program with
    | done value' =>
      simp only [Machine.finish, Option.some.injEq, Prod.mk.injEq] at ended
      rw [← ended.1, ← ended.2]
      exact meets
    | raised problem => cases ended
    | perform op next => cases ended
  | cons choice made ih =>
    cases program with
    | done value' => cases ended
    | raised problem => cases ended
    | perform op next =>
      obtain ⟨-, rest⟩ := meets world rfl choice (within choice (List.mem_cons_self ..))
      exact ih rest (fun other member => within other (List.mem_cons_of_mem _ member)) ended

/-- Choices that are admitted everywhere. -/
theorem Admitted.of_forall {machine : Machine S ε World Choice}
    {admits : S.Op → Choice → World → Prop} (choices : List Choice)
    (state : Program S ε α × World)
    (everywhere : ∀ choice ∈ choices, ∀ op world, admits op choice world) :
    Admitted machine admits choices state := by
  induction choices generalizing state with
  | nil => trivial
  | cons choice choices ih =>
    obtain ⟨program, world⟩ := state
    cases program with
    | done value => trivial
    | raised problem => trivial
    | perform op next =>
      exact ⟨everywhere choice (List.mem_cons_self ..) op world,
        ih _ fun other member => everywhere other (List.mem_cons_of_mem _ member)⟩

/-- Admitted choices in two parts. -/
theorem Admitted.append {machine : Machine S ε World Choice}
    {admits : S.Op → Choice → World → Prop} (choices more : List Choice)
    (state : Program S ε α × World) :
    Admitted machine admits (choices ++ more) state ↔
      Admitted machine admits choices state ∧
        Admitted machine admits more (machine.run choices state) := by
  induction choices generalizing state with
  | nil => simp [Admitted]
  | cons choice choices ih =>
    obtain ⟨program, world⟩ := state
    cases program with
    | done value =>
      rw [Machine.run_finished _ _ _ rfl]
      cases more <;> simp [Admitted]
    | raised problem =>
      rw [Machine.run_finished _ _ _ rfl]
      cases more <;> simp [Admitted]
    | perform op next =>
      rw [List.cons_append, Admitted, ih, Admitted, Machine.run_cons, and_assoc]

/-- One admitted choice. -/
theorem Admitted.single {machine : Machine S ε World Choice}
    {admits : S.Op → Choice → World → Prop} {choice : Choice} {state : Program S ε α × World}
    (here : ∀ op, admits op choice state.2) : Admitted machine admits [choice] state :=
  match state, here with
  | (.done _, _), _ => trivial
  | (.raised _, _), _ => trivial
  | (.perform op _, _), here => ⟨here op, trivial⟩

/-- A contract holds on at the next step of a run of admitted choices: the step is one of the
guarantee, or the program has ended. -/
theorem Meets.run_step {machine : Machine S ε World Choice}
    {admits : S.Op → Choice → World → Prop} {guarantee : World → World → Prop}
    {post : α → World → Prop} {error : ε → World → Prop} {program : Program S ε α}
    {world : World} (choices : List Choice) (choice : Choice)
    (meets : Meets machine (.sequential admits guarantee) post error program world)
    (admitted : Admitted machine admits (choices ++ [choice]) (program, world)) :
    machine.run (choices ++ [choice]) (program, world) = machine.run choices (program, world) ∨
      guarantee (machine.run choices (program, world)).2
        (machine.run (choices ++ [choice]) (program, world)).2 := by
  obtain ⟨before, last⟩ := (Admitted.append choices [choice] (program, world)).mp admitted
  obtain ⟨rest, -⟩ := Meets.run choices meets before
  have whole : machine.run (choices ++ [choice]) (program, world) =
      machine.step choice (machine.run choices (program, world)) := by
    unfold Machine.run
    rw [List.foldl_append]
    rfl
  rw [whole]
  generalize machine.run choices (program, world) = state at rest last
  obtain ⟨program', world'⟩ := state
  cases program' with
  | done value => exact Or.inl rfl
  | raised problem => exact Or.inl rfl
  | perform op next => exact Or.inr (rest world' rfl choice last.1).1

-- The lemmas above say all about it; unfolding it would make the unifier run the machine.
attribute [irreducible] Admitted

/-- Every program ends, along every stream of choices, and it ends as its contract says. -/
theorem Meets.completes {machine : Machine S ε World Choice}
    {admits : S.Op → Choice → World → Prop} {guarantee : World → World → Prop}
    {post : α → World → Prop} {error : ε → World → Prop} {program : Program S ε α}
    {world : World} (stream : Nat → Choice)
    (admitted : ∀ index op world, admits op (stream index) world)
    (meets : Meets machine (.sequential admits guarantee) post error program world) :
    ∃ count, (∃ value end', machine.run ((List.range count).map stream) (program, world) =
        (.done value, end') ∧ post value end') ∨
      ∃ problem end', machine.run ((List.range count).map stream) (program, world) =
        (.raised problem, end') ∧ error problem end' := by
  induction program generalizing world stream with
  | done value => exact ⟨0, Or.inl ⟨value, world, rfl, meets⟩⟩
  | raised problem => exact ⟨0, Or.inr ⟨problem, world, rfl, meets⟩⟩
  | perform op next ih =>
    obtain ⟨-, rest⟩ := meets world rfl (stream 0) (admitted 0 op world)
    obtain ⟨count, ends⟩ := ih _ (fun index => stream (index + 1))
      (fun index => admitted (index + 1)) rest
    refine ⟨count + 1, ?_⟩
    rw [List.range_succ_eq_map, List.map_cons, List.map_map]
    exact ends

end Effects

import Mathlib

/-!
# Programs over fallible effects

A program is a tree: it has finished with a value, it has raised an error, or it performs
one effect and continues from the outcome of that effect, which is an answer or an error.
A machine gives the effects their meaning on a world; a choice of the environment decides
what the program cannot know (a fault, a clock reading, the next message). Running a
program on a list of choices stops after the last one, so the states reached by the
prefixes of a list are the moments of a run, and a crash is a run that goes no further.
-/

namespace Effects

/-- The effects a program may perform, each with the type of its answer. -/
structure Signature where
  /-- The requests. -/
  Op : Type
  /-- What a request answers when it does not fail. -/
  Answer : Op → Type

/-- A program over the effects of `S` that returns an `α` or raises an `ε`. -/
inductive Program (S : Signature) (ε α : Type) where
  | done (value : α)
  | raised (error : ε)
  | perform (op : S.Op) (next : Except ε (S.Answer op) → Program S ε α)

namespace Program

variable {S : Signature} {ε α β : Type}

/-- Continue a program with its value; an error ends the continuation too. -/
def bind : Program S ε α → (α → Program S ε β) → Program S ε β
  | .done value, next => next value
  | .raised error, _ => .raised error
  | .perform op rest, next => .perform op fun outcome => (rest outcome).bind next

instance : Monad (Program S ε) where
  pure := .done
  bind := bind

/-- Replace an error by the program that handles it: `try … except`. -/
def handle : Program S ε α → (ε → Program S ε α) → Program S ε α
  | .done value, _ => .done value
  | .raised error, handler => handler error
  | .perform op rest, handler => .perform op fun outcome => (rest outcome).handle handler

/-- Run the program and return how it ended, a value or an error. -/
def outcome (program : Program S ε α) : Program S ε (Except ε α) :=
  (program.bind fun value => .done (Except.ok value)).handle fun error => .done (.error error)

/-- Run `cleanup` after the program, whichever way it ended: `try … finally`. An error of
the cleanup replaces the outcome. -/
def ensure (program : Program S ε α) (cleanup : Program S ε Unit) : Program S ε α :=
  program.outcome.bind fun outcome => cleanup.bind fun _ =>
    match outcome with
    | .ok value => .done value
    | .error error => .raised error

/-- One effect, its answer returned and its error raised. -/
def request (op : S.Op) : Program S ε (S.Answer op) :=
  .perform op fun
    | .ok answer => .done answer
    | .error error => .raised error

/-- Return the value of a fallible computation or raise its error. -/
def ofExcept : Except ε α → Program S ε α
  | .ok value => .done value
  | .error error => .raised error

/-- The attempts of `retryCall` from number `attempt` on, with `left` more after it. -/
def attemptFrom (retryable : ε → Bool) (exhausted : Nat → ε) (operation : Program S ε α)
    (attempt : Nat) : Nat → Program S ε α
  | 0 => operation.handle fun error =>
      if retryable error then .raised (exhausted attempt) else .raised error
  | left + 1 => operation.handle fun error =>
      if retryable error then attemptFrom retryable exhausted operation (attempt + 1) left
      else .raised error

/-- At most `attempts` attempts of an operation: an error that is not retryable is raised at
once, and a retryable one on the last attempt is raised as exhaustion. -/
def retryCall (retryable : ε → Bool) (exhausted : Nat → ε) (attempts : Nat)
    (operation : Program S ε α) : Program S ε α :=
  attemptFrom retryable exhausted operation 1 (attempts - 1)

/-- Whether the program has an effect left to perform. -/
def running : Program S ε α → Bool
  | .perform _ _ => true
  | _ => false

/-- Every effect the program may perform satisfies the condition. -/
def Uses (allowed : S.Op → Prop) : Program S ε α → Prop
  | .done _ => True
  | .raised _ => True
  | .perform op next => allowed op ∧ ∀ outcome, Uses allowed (next outcome)

@[simp] theorem pure_eq (value : α) : (pure value : Program S ε α) = .done value := rfl

@[simp] theorem bind_eq (program : Program S ε α) (next : α → Program S ε β) :
    (program >>= next) = program.bind next := rfl

/-- A program continued twice is continued once. -/
theorem bind_assoc {γ : Type} (program : Program S ε α) (next : α → Program S ε β)
    (last : β → Program S ε γ) :
    (program.bind next).bind last = program.bind fun value => (next value).bind last := by
  induction program with
  | done value => rfl
  | raised error => rfl
  | perform op rest ih =>
    simp only [bind]
    congr 1
    funext outcome
    exact ih outcome

namespace Uses

variable {allowed : S.Op → Prop} {program : Program S ε α}

/-- Sequencing. -/
theorem bind {next : α → Program S ε β} (first : program.Uses allowed)
    (rest : ∀ value, (next value).Uses allowed) : (program.bind next).Uses allowed := by
  induction program with
  | done value => exact rest value
  | raised error => trivial
  | perform op others ih => exact ⟨first.1, fun outcome => ih outcome (first.2 outcome)⟩

/-- Handling. -/
theorem handle {handler : ε → Program S ε α} (first : program.Uses allowed)
    (rest : ∀ error, (handler error).Uses allowed) : (program.handle handler).Uses allowed := by
  induction program with
  | done value => trivial
  | raised error => exact rest error
  | perform op others ih => exact ⟨first.1, fun outcome => ih outcome (first.2 outcome)⟩

/-- Effects that are all of one kind are all of a wider one. -/
theorem mono {wider : S.Op → Prop} (uses : program.Uses allowed)
    (each : ∀ op, allowed op → wider op) : program.Uses wider := by
  induction program with
  | done value => trivial
  | raised error => trivial
  | perform op next ih => exact ⟨each op uses.1, fun outcome => ih outcome (uses.2 outcome)⟩

/-- The outcome of a program. -/
theorem outcome (first : program.Uses allowed) : program.outcome.Uses allowed :=
  handle (bind first fun _ => trivial) fun _ => trivial

/-- A cleanup. -/
theorem ensure {cleanup : Program S ε Unit} (first : program.Uses allowed)
    (last : cleanup.Uses allowed) : (program.ensure cleanup).Uses allowed := by
  refine bind first.outcome fun ended => bind last fun _ => ?_
  cases ended with
  | ok value => trivial
  | error error => trivial

/-- One effect. -/
theorem request {op : S.Op} (here : allowed op) :
    (Program.request op : Program S ε (S.Answer op)).Uses allowed := by
  refine ⟨here, fun outcome => ?_⟩
  cases outcome with
  | ok answer => trivial
  | error error => trivial

/-- A computation without effects. -/
theorem ofExcept (outcome : Except ε α) :
    (Program.ofExcept outcome : Program S ε α).Uses allowed := by
  cases outcome with
  | ok value => trivial
  | error error => trivial

/-- A computation without effects, continued with its value. -/
theorem ofExcept_bind {outcome : Except ε α} {next : α → Program S ε β}
    (rest : ∀ value, outcome = .ok value → (next value).Uses allowed) :
    ((Program.ofExcept outcome).bind next).Uses allowed := by
  cases outcome with
  | ok value => exact rest value rfl
  | error error => trivial

/-- Bounded retries. -/
theorem retryCall {retryable : ε → Bool} {exhausted : Nat → ε} {attempts : Nat}
    (each : program.Uses allowed) :
    (Program.retryCall retryable exhausted attempts program).Uses allowed := by
  unfold Program.retryCall
  generalize attempts - 1 = left
  generalize 1 = attempt
  induction left generalizing attempt with
  | zero =>
    refine handle each fun error => ?_
    split
    · trivial
    · trivial
  | succ left ih =>
    refine handle each fun error => ?_
    split
    · exact ih (attempt + 1)
    · trivial

end Uses

end Program

/-- The meaning of the effects of `S` on a world, under a choice of the environment. -/
structure Machine (S : Signature) (ε World Choice : Type) where
  /-- The outcome of one effect and the world after it. -/
  act : (op : S.Op) → Choice → World → Except ε (S.Answer op) × World

namespace Machine

variable {S : Signature} {ε α World Choice : Type}

/-- One effect of a program; a finished program stays as it is. -/
def step (machine : Machine S ε World Choice) (choice : Choice) :
    Program S ε α × World → Program S ε α × World
  | (.perform op next, world) =>
    let result := machine.act op choice world
    (next result.1, result.2)
  | finished => finished

/-- The state after one effect for each choice of the list. -/
def run (machine : Machine S ε World Choice) (choices : List Choice)
    (state : Program S ε α × World) : Program S ε α × World :=
  choices.foldl (fun state choice => machine.step choice state) state

@[simp] theorem run_nil (machine : Machine S ε World Choice) (state : Program S ε α × World) :
    machine.run [] state = state := rfl

@[simp] theorem run_cons (machine : Machine S ε World Choice) (choice : Choice)
    (choices : List Choice) (state : Program S ε α × World) :
    machine.run (choice :: choices) state = machine.run choices (machine.step choice state) := rfl

/-- A finished program performs nothing more. -/
theorem run_finished (machine : Machine S ε World Choice) (choices : List Choice)
    (state : Program S ε α × World) (finished : state.1.running = false) :
    machine.run choices state = state := by
  induction choices with
  | nil => rfl
  | cons choice choices ih =>
    obtain ⟨program, world⟩ := state
    cases program with
    | done value => exact ih
    | raised error => exact ih
    | perform op next => simp [Program.running] at finished

/-- The value and the world of a program that ends exactly with the last choice. -/
def finish (machine : Machine S ε World Choice) :
    List Choice → Program S ε α × World → Option (α × World)
  | [], (.done value, world) => some (value, world)
  | choice :: choices, (.perform op next, world) =>
    machine.finish choices (machine.step choice (.perform op next, world))
  | _, _ => none

/-- Where a program ends, its continuation begins. -/
theorem run_finish {β : Type} {machine : Machine S ε World Choice} {choices : List Choice}
    {program : Program S ε α} {world after : World} {value : α}
    (finished : machine.finish choices (program, world) = some (value, after))
    (next : α → Program S ε β) :
    machine.run choices (program.bind next, world) = (next value, after) := by
  induction choices generalizing program world with
  | nil =>
    cases program with
    | done value' =>
      simp only [finish, Option.some.injEq, Prod.mk.injEq] at finished
      rw [← finished.1, ← finished.2]
      rfl
    | raised error => cases finished
    | perform op rest => cases finished
  | cons choice choices ih =>
    cases program with
    | done value' => cases finished
    | raised error => cases finished
    | perform op rest => exact ih finished

end Machine

end Effects

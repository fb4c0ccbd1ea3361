import Mathlib.Logic.Basic

/-!
# Operations with a completion handler

A function of the callback kind does not return its result. It issues a request and
returns, its callback runs on the reply, and somewhere on the way it calls the
completion handler that it was given, or forgets to, or calls it twice. An
`Operation` is what such a function does, as a tree: it ends, it traps, it calls the
handler and goes on, or it goes on with a reply.

An environment that answers every request determines an execution, with all calls of
the handler in their order (`execute`). A function that passes its own handler to
another one is `onComplete`, and what it calls is what the inner handler calls
(`silent_onComplete`).
-/

set_option autoImplicit false

/-- What a function with a completion handler does. -/
inductive Operation (Request Reply Result : Type) where
  | finish
  | trap
  | complete (result : Result) (next : Operation Request Reply Result)
  | request (request : Request) (resume : Reply → Operation Request Reply Result)

/-- The calls of the handler, and whether the execution ended in a trap. -/
structure Execution (Result : Type) where
  completions : List Result := []
  trapped : Bool := false
deriving DecidableEq, Repr

namespace Operation

variable {Request Reply Result Other : Type}

/-- `return completion(result)` -/
def result (value : Result) : Operation Request Reply Result :=
  .complete value .finish

/-- The execution in which every request is answered. -/
def execute (answer : Request → Reply) : Operation Request Reply Result → Execution Result
  | .finish => {}
  | .trap => { trapped := true }
  | .complete value next =>
      { execute answer next with completions := value :: (execute answer next).completions }
  | .request issued resume => execute answer (resume (answer issued))

/-- The requests issued, in their order. -/
def requests (answer : Request → Reply) : Operation Request Reply Result → List Request
  | .finish => []
  | .trap => []
  | .complete _ next => requests answer next
  | .request issued resume => issued :: requests answer (resume (answer issued))

variable {answer : Request → Reply}

@[simp] theorem execute_finish :
    execute answer (.finish : Operation Request Reply Result) = {} := rfl

@[simp] theorem execute_trap :
    execute answer (.trap : Operation Request Reply Result) = { trapped := true } := rfl

@[simp] theorem execute_complete (value : Result) (next : Operation Request Reply Result) :
    execute answer (.complete value next) =
      { execute answer next with completions := value :: (execute answer next).completions } := rfl

@[simp] theorem execute_request (issued : Request)
    (resume : Reply → Operation Request Reply Result) :
    execute answer (.request issued resume) = execute answer (resume (answer issued)) := rfl

@[simp] theorem execute_result (value : Result) :
    execute answer (result value : Operation Request Reply Result) =
      { completions := [value] } := rfl

/-! ## Properties of executions -/

/-- The handler is called exactly once, and nothing traps. -/
def CompletesOnce (answer : Request → Reply) (operation : Operation Request Reply Result) : Prop :=
  (execute answer operation).trapped = false ∧
    (execute answer operation).completions.length = 1

/-- The handler is called exactly once, with an error when something failed. -/
def Answers {ε α : Type} (answer : Request → Reply)
    (operation : Operation Request Reply (Except ε α)) (failed : Prop) : Prop :=
  (execute answer operation).trapped = false ∧
    ∃ value, (execute answer operation).completions = [value] ∧
      (failed → ∃ error, value = .error error)

/-- The handler is never called. -/
def Silent (answer : Request → Reply) (operation : Operation Request Reply Result) : Prop :=
  (execute answer operation).completions = []

theorem not_completesOnce_of_silent {operation : Operation Request Reply Result}
    (silent : Silent answer operation) : ¬ CompletesOnce answer operation := by
  rintro ⟨-, once⟩
  rw [silent] at once
  exact absurd once Nat.zero_ne_one

/-! ## Handlers that go on -/

/-- One operation and then, once it has ended, another. -/
def andThen : Operation Request Reply Result → Operation Request Reply Result →
    Operation Request Reply Result
  | .finish, second => second
  | .trap, _ => .trap
  | .complete value next, second => .complete value (next.andThen second)
  | .request issued resume, second => .request issued fun reply => (resume reply).andThen second

/-- The operation whose handler goes on with another operation. -/
def onComplete (handler : Result → Operation Request Reply Other) :
    Operation Request Reply Result → Operation Request Reply Other
  | .finish => .finish
  | .trap => .trap
  | .complete value next => (handler value).andThen (next.onComplete handler)
  | .request issued resume => .request issued fun reply => (resume reply).onComplete handler

theorem silent_andThen {first second : Operation Request Reply Result}
    (firstSilent : Silent answer first) (secondSilent : Silent answer second) :
    Silent answer (first.andThen second) := by
  induction first with
  | finish => exact secondSilent
  | trap => rfl
  | complete value next ih => cases firstSilent
  | request issued resume ih => exact ih (answer issued) firstSilent

/-- Where the inner handler never calls the outer one, nothing does. -/
theorem silent_onComplete {handler : Result → Operation Request Reply Other}
    (silent : ∀ value, Silent answer (handler value))
    (operation : Operation Request Reply Result) :
    Silent answer (operation.onComplete handler) := by
  induction operation with
  | finish => rfl
  | trap => rfl
  | complete value next ih => exact silent_andThen (silent value) ih
  | request issued resume ih => exact ih (answer issued)

end Operation

import Mathlib.Algebra.Ring.Nat
import MyMealPrep.Machines.RequestReply

/-!
# Programs that come to rest

A callback may issue requests, and their callbacks more of them. `Ranking` gives every
callback a rank above those of the callbacks that follow from it (`Ranking.Law`). Then a
program whose users have stopped makes no more than twice as many steps as the ranks of
the requests in flight add up to (`Law.length_add_remaining_le`).

Where no callback traps, a step is possible as long as a request is in flight
(`exists_step_of_inFlight`). So the program comes to rest, whatever the server answers and in
whichever order.
-/

set_option autoImplicit false

namespace RequestReply

variable {Client Server Request Reply Continuation Action Input Fate Event : Type}
  {P : Program Client Server Request Reply Continuation Action Input Fate Event}

/-- No client acts. -/
def WithoutActions (_ : Trace Request Continuation Action Input Fate Event)
    (_ : State Client Server Request Reply Continuation) : Label Action Input Fate → Prop
  | .act _ _ => False
  | .serve _ _ => True
  | .deliver _ _ => True

instance (trace : Trace Request Continuation Action Input Fate Event)
    (s : State Client Server Request Reply Continuation) (label : Label Action Input Fate) :
    Decidable (WithoutActions trace s label) := by
  unfold WithoutActions
  split <;> infer_instance

/-- The ranks of the callbacks. -/
structure Ranking (P : Program Client Server Request Reply Continuation Action Input Fate Event)
    where
  rank : Continuation → Nat
  positive : ∀ continuation, 0 < rank continuation

namespace Ranking

variable (R : Ranking P)

/-- The callbacks issued rank below the one that issues them, all together. -/
structure Law : Prop where
  resumed : ∀ {continuation reply input client effect},
    P.resume continuation reply input client = some effect →
    (effect.requests.map fun issued => R.rank issued.2).sum < R.rank continuation

/-- The steps that a request in flight can lead to: it is served and delivered, and so are
those that follow. -/
def weight (task : Task Request Reply Continuation) : Nat :=
  2 * R.rank task.continuation - if task.reply.isSome then 1 else 0

/-- The steps that all requests in flight can lead to. -/
def remaining (s : State Client Server Request Reply Continuation) : Nat :=
  (s.tasks.map R.weight).sum

variable {R} {s s' : State Client Server Request Reply Continuation}
  {label : Label Action Input Fate} {output : Output Request Continuation Event}
  {trace : Trace Request Continuation Action Input Fate Event}

/-- The one request that a callback issues ranks as its callback does. -/
theorem sum_rank_lt {continuation : Continuation} {requests : List (Request × Continuation)}
    (few : requests.length ≤ 1)
    (lower : ∀ issued ∈ requests, R.rank issued.2 < R.rank continuation) :
    (requests.map fun issued => R.rank issued.2).sum < R.rank continuation := by
  cases requests with
  | nil => exact R.positive continuation
  | cons issued rest =>
      obtain rfl : rest = [] := List.length_eq_zero_iff.mp (by rw [List.length_cons] at few; omega)
      rw [List.map_singleton, List.sum_singleton]
      exact lower issued List.mem_cons_self

theorem remaining_eq {index : Nat} {task : Task Request Reply Continuation}
    (inFlight : s.tasks[index]? = some task) :
    R.remaining s = R.weight task + ((s.tasks.eraseIdx index).map R.weight).sum := by
  rw [remaining, ((State.perm_cons_eraseIdx inFlight).map R.weight).sum_nat, List.map_cons,
    List.sum_cons]

theorem sum_weight_issued (client : Nat) (requests : List (Request × Continuation)) :
    ((requests.map fun issued => (⟨client, issued.1, issued.2, none⟩ :
        Task Request Reply Continuation)).map R.weight).sum =
      2 * (requests.map fun issued => R.rank issued.2).sum := by
  induction requests with
  | nil => rfl
  | cons issued rest ih =>
      rw [List.map_cons, List.map_cons, List.sum_cons, ih, List.map_cons, List.sum_cons,
        Nat.mul_add]
      rfl

/-- **A step without an action leaves fewer steps.** -/
theorem Law.remaining_lt (law : R.Law) (noAction : WithoutActions trace s label)
    (stepped : P.StepCase s label output s') : R.remaining s' < R.remaining s := by
  cases stepped with
  | act handled => cases noAction
  | @serve index fate task inFlight waiting =>
      have inRange := (List.getElem?_eq_some_iff.mp inFlight).1
      have ranked := R.positive task.continuation
      rw [remaining_eq inFlight, remaining,
        ((List.set_perm_cons_eraseIdx inRange _).map R.weight).sum_nat, List.map_cons,
        List.sum_cons]
      simp only [weight, waiting, Option.isSome_some, Option.isSome_none, if_true,
        Bool.false_eq_true, if_false]
      omega
  | @deliver index input task reply effect inFlight answered resumed =>
      have lower := law.resumed resumed
      rw [remaining_eq inFlight, remaining, State.commit_tasks, List.map_append, List.sum_append,
        sum_weight_issued, weight, answered, Option.isSome_some, if_pos rfl]
      omega

/-- **A program whose users have stopped makes no more steps than the requests in flight lead
to.** -/
theorem Law.length_add_remaining_le (law : R.Law)
    {s₀ : State Client Server Request Reply Continuation}
    (run : P.Run WithoutActions s₀ trace s) : trace.length + R.remaining s ≤ R.remaining s₀ := by
  induction run with
  | start => exact Nat.le_of_eq (Nat.zero_add _)
  | step before permitted stepped ih =>
      have fewer := law.remaining_lt permitted (Program.stepCase_of_step stepped)
      rw [List.length_cons]
      omega

/-- Each request in flight leads to no more steps than the highest rank allows. -/
theorem remaining_le {most : Nat} (bounded : ∀ continuation, R.rank continuation ≤ most)
    (s : State Client Server Request Reply Continuation) :
    R.remaining s ≤ 2 * most * s.tasks.length := by
  rw [remaining]
  generalize s.tasks = tasks
  induction tasks with
  | nil => exact Nat.zero_le _
  | cons task rest ih =>
      have lower : R.weight task ≤ 2 * most :=
        Nat.le_trans (Nat.sub_le _ _) (Nat.mul_le_mul_left 2 (bounded task.continuation))
      rw [List.map_cons, List.sum_cons, List.length_cons, Nat.mul_add]
      omega

end Ranking

/-- Where no callback traps, a step is possible as long as a request is in flight. -/
theorem exists_step_of_inFlight [Nonempty Fate] [Nonempty Input]
    (untrapped : ∀ continuation reply input client,
      (P.resume continuation reply input client).isSome = true)
    {s : State Client Server Request Reply Continuation} (inFlight : s.tasks ≠ [])
    (trace : Trace Request Continuation Action Input Fate Event) :
    ∃ label output s', WithoutActions trace s label ∧ P.step s label = some (output, s') := by
  obtain ⟨fate⟩ := ‹Nonempty Fate›
  obtain ⟨input⟩ := ‹Nonempty Input›
  obtain ⟨task, rest, tasks⟩ := List.exists_cons_of_ne_nil inFlight
  have first : s.tasks[0]? = some task := by rw [tasks, List.getElem?_cons_zero]
  cases replied : task.reply with
  | none => exact ⟨.serve 0 fate, _, _, trivial, by simp only [Program.step, first, replied]; rfl⟩
  | some reply =>
      obtain ⟨effect, resumed⟩ := Option.isSome_iff_exists.mp
        (untrapped task.continuation reply input (s.clients task.client))
      exact ⟨.deliver 0 input, _, _, trivial, P.step_deliver first replied resumed⟩

end RequestReply

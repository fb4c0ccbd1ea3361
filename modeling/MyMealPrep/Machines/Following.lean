import MyMealPrep.Machines.RequestReply

/-!
# Following one request

Requests in flight are named by their positions, and every reply delivered moves
the later ones up. `Label.follow` says where a request is after a step, and
`Program.Awaits` are the runs in which one request stays in flight, with its
position at the end.

Whatever else happens in such a run, the request is the one that was issued, and
its reply was given by the server in one of the states passed (`Awaits.answered`).
-/

set_option autoImplicit false

namespace RequestReply

variable {Client Server Request Reply Continuation Action Input Fate Event : Type}

/-- Where a request in flight is after a step, unless the step delivers its reply. -/
def Label.follow (index : Nat) : Label Action Input Fate → Option Nat
  | .act _ _ => some index
  | .serve _ _ => some index
  | .deliver delivered _ =>
      if delivered < index then some (index - 1)
      else if delivered = index then none
      else some index

namespace Program

variable (P : Program Client Server Request Reply Continuation Action Input Fate Event)

/-- The runs that go on from a state while the request at a position stays in flight, with
its position at the end. -/
inductive Awaits
    (allowed : Trace Request Continuation Action Input Fate Event →
      State Client Server Request Reply Continuation → Label Action Input Fate → Prop)
    (trace₀ : Trace Request Continuation Action Input Fate Event)
    (s₀ : State Client Server Request Reply Continuation) (index₀ : Nat) :
    Trace Request Continuation Action Input Fate Event →
      State Client Server Request Reply Continuation → Nat → Prop where
  | start : Awaits allowed trace₀ s₀ index₀ trace₀ s₀ index₀
  | step {trace : Trace Request Continuation Action Input Fate Event}
      {s s' : State Client Server Request Reply Continuation} {index next : Nat}
      {label : Label Action Input Fate} {output : Output Request Continuation Event}
      (before : Awaits allowed trace₀ s₀ index₀ trace s index) (permitted : allowed trace s label)
      (stepped : P.step s label = some (output, s')) (followed : label.follow index = some next) :
      Awaits allowed trace₀ s₀ index₀ ((label, output) :: trace) s' next

variable {P} {s s' : State Client Server Request Reply Continuation}
  {label : Label Action Input Fate} {output : Output Request Continuation Event}
  {index next : Nat} {task : Task Request Reply Continuation}

/-- A step leaves a request that is followed, or serves it. -/
theorem follow_step (inFlight : s.tasks[index]? = some task)
    (stepped : P.StepCase s label output s') (followed : label.follow index = some next) :
    s'.tasks[next]? = some task ∨
    ∃ fate, label = .serve index fate ∧ task.reply = none ∧
      s'.tasks[next]? =
        some { task with reply := some (P.answer s fate task) } := by
  have inRange := (List.getElem?_eq_some_iff.mp inFlight).1
  cases stepped with
  | act handled =>
      obtain rfl := Option.some.inj followed
      refine .inl ?_
      rw [State.commit_tasks, List.getElem?_append_left inRange]
      exact inFlight
  | @serve served fate other found waiting =>
      obtain rfl := Option.some.inj followed
      by_cases same : served = index
      · subst same
        obtain rfl := Option.some.inj (found.symm.trans inFlight)
        exact .inr ⟨fate, rfl, waiting, List.getElem?_set_self inRange⟩
      · refine .inl ?_
        rw [List.getElem?_set_ne same]
        exact inFlight
  | @deliver delivered input other reply effect found answered resumed =>
      refine .inl ?_
      rw [Label.follow] at followed
      by_cases before : delivered < index
      · rw [if_pos before] at followed
        obtain rfl := Option.some.inj followed
        have moved : (s.tasks.eraseIdx delivered)[index - 1]? = some task := by
          rw [List.getElem?_eraseIdx_of_ge (by omega), Nat.sub_add_cancel (by omega)]
          exact inFlight
        rw [State.commit_tasks, List.getElem?_append_left (List.getElem?_eq_some_iff.mp moved).1]
        exact moved
      · rw [if_neg before] at followed
        by_cases same : delivered = index
        · rw [if_pos same] at followed
          cases followed
        · rw [if_neg same] at followed
          obtain rfl := Option.some.inj followed
          have kept : (s.tasks.eraseIdx delivered)[index]? = some task := by
            rw [List.getElem?_eraseIdx_of_lt (by omega)]
            exact inFlight
          rw [State.commit_tasks, List.getElem?_append_left (List.getElem?_eq_some_iff.mp kept).1]
          exact kept

/-- What holds when a request is first awaited and survives every allowed step holds as long as it
is awaited. -/
theorem Awaits.invariant
    {allowed : Trace Request Continuation Action Input Fate Event →
      State Client Server Request Reply Continuation → Label Action Input Fate → Prop}
    {trace₀ trace : Trace Request Continuation Action Input Fate Event}
    {s₀ : State Client Server Request Reply Continuation} {index₀ : Nat}
    (awaits : P.Awaits allowed trace₀ s₀ index₀ trace s index)
    {I : State Client Server Request Reply Continuation → Prop} (initial : I s₀)
    (preserved : ∀ {trace s label output s'}, I s → allowed trace s label →
      P.StepCase s label output s' → I s') : I s := by
  induction awaits with
  | start => exact initial
  | step _ permitted stepped _ ih => exact preserved ih permitted (stepCase_of_step stepped)

/-- **A request that is awaited is the one issued, and the server has given its reply in one
of the states passed.** -/
theorem Awaits.answered
    {allowed : Trace Request Continuation Action Input Fate Event →
      State Client Server Request Reply Continuation → Label Action Input Fate → Prop}
    {trace₀ trace : Trace Request Continuation Action Input Fate Event}
    {s₀ : State Client Server Request Reply Continuation} {index₀ : Nat}
    (awaits : P.Awaits allowed trace₀ s₀ index₀ trace s index)
    {I : State Client Server Request Reply Continuation → Prop} (initial : I s₀)
    (preserved : ∀ {trace s label output s'}, I s → allowed trace s label →
      P.StepCase s label output s' → I s')
    (inFlight : s₀.tasks[index₀]? = some task) (waiting : task.reply = none) :
    I s ∧ ∃ reply, s.tasks[index]? = some { task with reply } ∧
      ∀ answer ∈ reply, ∃ trace between position fate, I between ∧
        between.tasks[position]? = some task ∧ allowed trace between (.serve position fate) ∧
          answer = P.answer between fate task := by
  induction awaits with
  | start => exact ⟨initial, none, by rw [inFlight, ← waiting], by simp⟩
  | @step trace s s' index next label output before permitted stepped followed ih =>
      obtain ⟨holds, reply, found, given⟩ := ih
      have stepCase := stepCase_of_step stepped
      refine ⟨preserved holds permitted stepCase, ?_⟩
      rcases follow_step found stepCase followed with same | ⟨fate, rfl, unanswered, served⟩
      · exact ⟨reply, same, given⟩
      · refine ⟨_, served, ?_⟩
        rintro answer ⟨⟩
        obtain rfl : reply = none := unanswered
        exact ⟨trace, s, index, fate, holds, by rw [found, ← waiting], permitted, rfl⟩

end Program

end RequestReply

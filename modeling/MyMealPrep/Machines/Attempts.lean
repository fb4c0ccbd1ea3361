import Mathlib.Algebra.Ring.Nat
import MyMealPrep.Machines.RequestReply

/-!
# Attempts and their answers

A user starts an attempt. One request of it leads to the next, until a callback shows the
answer. A callback may also show nothing and issue nothing, and then the attempt ends without
an answer.

`Attempts` names the callbacks that carry an attempt on, the events that answer one and the
replies on which a callback falls silent. When each callback of an attempt carries it on or
answers it, once, and no other callback does (`Attempts.Law`), no run shows more answers than
attempts were started. It shows as many, up to those in flight, exactly when no callback has
fallen silent (`Law.balance`).
-/

set_option autoImplicit false

namespace RequestReply

variable {Client Server Request Reply Continuation Action Input Fate Event : Type}
  {P : Program Client Server Request Reply Continuation Action Input Fate Event}

/-- A trace leads to one state. -/
theorem Program.Run.state_unique
    {allowed otherAllowed : Trace Request Continuation Action Input Fate Event →
      State Client Server Request Reply Continuation → Label Action Input Fate → Prop}
    {s₀ s other : State Client Server Request Reply Continuation}
    {trace : Trace Request Continuation Action Input Fate Event}
    (run : P.Run allowed s₀ trace s) (otherRun : P.Run otherAllowed s₀ trace other) :
    s = other := by
  induction run generalizing other with
  | start =>
      cases otherRun
      rfl
  | step before permitted stepped ih =>
      cases otherRun with
      | step otherBefore otherPermitted otherStepped =>
          obtain rfl := ih otherBefore
          exact (Prod.mk.inj (Option.some.inj (stepped.symm.trans otherStepped))).2

/-- What carries an attempt on, what answers it, and where it ends without an answer. -/
structure Attempts (P : Program Client Server Request Reply Continuation Action Input Fate Event)
    where
  carries : Continuation → Bool
  answers : Event → Bool
  silent : Continuation → Reply → Bool

namespace Attempts

variable (A : Attempts P)

/-- The attempts that the requests issued carry on. -/
def carried (requests : List (Request × Continuation)) : Nat :=
  requests.countP fun issued => A.carries issued.2

/-- The attempts in flight of a client. -/
def pending (s : State Client Server Request Reply Continuation) (client : Nat) : Nat :=
  s.tasks.countP fun task => task.client == client && A.carries task.continuation

/-- The attempts that a client starts in a step. -/
def startedIn (client : Nat) (label : Label Action Input Fate)
    (output : Output Request Continuation Event) : Nat :=
  match label with
  | .act actor _ =>
      if actor = client then A.carried output.requests + output.events.countP A.answers else 0
  | .serve _ _ => 0
  | .deliver _ _ => 0

/-- The answers that a client is shown in a step. -/
def shownIn (client : Nat) (output : Output Request Continuation Event) : Nat :=
  if output.client = client then output.events.countP A.answers else 0

/-- The attempts that a client has started. -/
def started (client : Nat) (trace : Trace Request Continuation Action Input Fate Event) : Nat :=
  (trace.map fun entry => A.startedIn client entry.1 entry.2).sum

/-- The answers that a client has been shown. -/
def shown (client : Nat) (trace : Trace Request Continuation Action Input Fate Event) : Nat :=
  (trace.map fun entry => A.shownIn client entry.2).sum

/-- A callback carries on the attempt that it belongs to, or answers it, unless it falls
silent. -/
structure Law : Prop where
  resumed : ∀ {continuation reply input client effect},
    P.resume continuation reply input client = some effect →
    A.carried effect.requests + effect.events.countP A.answers =
      (A.carries continuation && !A.silent continuation reply).toNat

/-- No callback of the client falls silent. -/
def Heard (client : Nat) (_ : Trace Request Continuation Action Input Fate Event)
    (s : State Client Server Request Reply Continuation) : Label Action Input Fate → Prop
  | .deliver index _ => ∀ task ∈ s.tasks[index]?, task.client = client →
      A.carries task.continuation = true → ∀ reply ∈ task.reply,
        A.silent task.continuation reply = false
  | _ => True

variable {A} {s s' : State Client Server Request Reply Continuation}
  {trace : Trace Request Continuation Action Input Fate Event} {label : Label Action Input Fate}
  {output : Output Request Continuation Event}

theorem pending_commit (s : State Client Server Request Reply Continuation) (actor client : Nat)
    (tasks : List (Task Request Reply Continuation))
    (effect : Effect Client Request Continuation Event) :
    A.pending (s.commit actor tasks effect) client =
      tasks.countP (fun task => task.client == client && A.carries task.continuation) +
        if actor = client then A.carried effect.requests else 0 := by
  rw [pending, State.commit_tasks, List.countP_append, List.countP_map]
  congr 1
  split
  · rename_i same
    refine List.countP_congr fun issued _ => ?_
    simp [same]
  · rename_i different
    refine List.countP_eq_zero.mpr fun issued _ => ?_
    simp [different]

theorem pending_eq {index client : Nat} {task : Task Request Reply Continuation}
    (inFlight : s.tasks[index]? = some task) :
    A.pending s client = (s.tasks.eraseIdx index).countP
        (fun task => task.client == client && A.carries task.continuation) +
      (task.client == client && A.carries task.continuation).toNat := by
  rw [pending, (State.perm_cons_eraseIdx inFlight).countP_eq, List.countP_cons]
  cases task.client == client && A.carries task.continuation <;> rfl

theorem pending_serve {index : Nat} {task : Task Request Reply Continuation} (server : Server)
    (reply : Reply) (inFlight : s.tasks[index]? = some task) (client : Nat) :
    A.pending { s with server, tasks := s.tasks.set index { task with reply := some reply } }
        client = A.pending s client := by
  have inRange := (List.getElem?_eq_some_iff.mp inFlight).1
  rw [pending_eq inFlight, pending, (List.set_perm_cons_eraseIdx inRange _).countP_eq,
    List.countP_cons]
  cases task.client == client && A.carries task.continuation <;> rfl

/-- **A step balances the attempts started, those in flight and the answers**, but for the
callback that falls silent. -/
theorem Law.step (law : A.Law) (client : Nat) (stepped : P.StepCase s label output s') :
    ∃ lost : Nat,
      A.shownIn client output + A.pending s' client + lost =
        A.pending s client + A.startedIn client label output ∧
      (lost = 0 ↔ A.Heard client trace s label) := by
  cases stepped with
  | @act actor action effect handled =>
      refine ⟨0, ?_, iff_of_true rfl trivial⟩
      rw [pending_commit, shownIn, startedIn, pending]
      dsimp only
      split <;> omega
  | @serve index fate task inFlight waiting =>
      refine ⟨0, ?_, iff_of_true rfl trivial⟩
      rw [pending_serve _ _ inFlight, shownIn, startedIn]
      simp
  | @deliver index input task reply effect inFlight answered resumed =>
      have weight := law.resumed resumed
      have parts : ∀ carries silent : Bool,
          (carries && !silent).toNat + (carries && silent).toNat = carries.toNat := by decide
      have both := parts (A.carries task.continuation) (A.silent task.continuation reply)
      refine ⟨(task.client == client && (A.carries task.continuation &&
        A.silent task.continuation reply)).toNat, ?_, ?_⟩
      · rw [pending_commit, shownIn, startedIn, pending_eq inFlight]
        dsimp only
        by_cases own : task.client = client
        · rw [if_pos own, if_pos own, beq_iff_eq.mpr own, Bool.true_and, Bool.true_and]
          omega
        · rw [if_neg own, if_neg own, beq_eq_false_iff_ne.mpr own]
          simp
      · have delivered : A.Heard client trace s (.deliver index input) ↔
            (task.client = client → A.carries task.continuation = true →
              A.silent task.continuation reply = false) := by
          simp only [Heard, inFlight, answered, Option.mem_def, Option.some.injEq, forall_eq']
        rw [delivered]
        by_cases own : task.client = client <;> cases A.carries task.continuation <;>
          cases A.silent task.continuation reply <;> simp [own]

/-- The attempts started in a run, counted step by step. -/
theorem started_eq_sum {client : Nat}
    {counted : Label Action Input Fate × Output Request Continuation Event → Nat}
    (each : ∀ {s label output s'}, P.StepCase s label output s' →
      A.startedIn client label output = counted (label, output))
    {allowed : Trace Request Continuation Action Input Fate Event →
      State Client Server Request Reply Continuation → Label Action Input Fate → Prop}
    {s₀ : State Client Server Request Reply Continuation} (run : P.Run allowed s₀ trace s) :
    A.started client trace = (trace.map counted).sum := by
  induction run with
  | start => rfl
  | step before permitted stepped ih =>
      rw [started, List.map_cons, List.sum_cons, List.map_cons, List.sum_cons, ← ih,
        each (Program.stepCase_of_step stepped), started]

/-- **No run shows a client more answers than the client has started attempts**, those in flight
counted in. They are the same number exactly when no callback of the client has fallen
silent. -/
theorem Law.balance (law : A.Law) {s₀ : State Client Server Request Reply Continuation}
    (idle : s₀.tasks = [])
    {allowed : Trace Request Continuation Action Input Fate Event →
      State Client Server Request Reply Continuation → Label Action Input Fate → Prop}
    (run : P.Run allowed s₀ trace s) (client : Nat) :
    A.shown client trace + A.pending s client ≤ A.started client trace ∧
      (A.shown client trace + A.pending s client = A.started client trace ↔
        P.Run (A.Heard client) s₀ trace s) := by
  induction run with
  | start =>
      have nothing : A.pending s₀ client = 0 := by rw [pending, idle, List.countP_nil]
      rw [nothing]
      exact ⟨Nat.le_refl _, iff_of_true rfl .start⟩
  | @step trace s s' label output before permitted stepped ih =>
      obtain ⟨lost, balanced, heard⟩ :=
        law.step client (Program.stepCase_of_step stepped)
      obtain ⟨most, exactly⟩ := ih
      have shownNow : A.shown client ((label, output) :: trace) =
          A.shownIn client output + A.shown client trace := List.sum_cons
      have startedNow : A.started client ((label, output) :: trace) =
          A.startedIn client label output + A.started client trace := List.sum_cons
      refine ⟨by omega, fun same => ?_, fun heardRun => ?_⟩
      · exact .step (exactly.mp (by omega)) (heard.mp (by omega)) stepped
      · cases heardRun with
        | step heardBefore heardNow heardStepped =>
            obtain rfl := before.state_unique heardBefore
            have nothingLost := heard.mpr heardNow
            have soFar := exactly.mpr heardBefore
            omega

end Attempts

end RequestReply

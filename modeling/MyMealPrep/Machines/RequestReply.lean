import Mathlib.Logic.Function.Basic
import Mathlib.Data.List.Basic
import Mathlib.Data.List.Perm.Basic

/-!
# Programs whose requests are answered later

A client program of the callback kind never waits. A handler runs to completion,
changes the state of its client, issues requests and leaves, for each of them, a
continuation to run when the reply comes. Between two handlers anything may
happen: other clients act, the server answers requests in any order, replies
arrive late.

This module is about any such program. A state holds the states of the clients,
the state of the server and the requests in flight. A step is one of three.

* `act`: a client runs the handler of an action.
* `serve`: the server handles one request in flight. A fate chosen by the
  environment says how it fares. The client may see more than the server has when it
  makes up the answer, for it knows its own requests that are still in flight.
* `deliver`: the reply of one request reaches its client, whose continuation
  runs on an input chosen by the environment.

A handler or a continuation that traps has no effect to commit, so the program
has no step there. The runs allowed by a guard are `Program.Run`. An invariant
is proved once for a step (`Program.StepCase` lists what a step can do) and holds
in every run by `Program.Run.invariant`. Most invariants relate each request in
flight to the state of its client; `State.EveryTask` is that shape, with one
rule for each kind of step.
-/

set_option autoImplicit false

namespace RequestReply

variable {Client Server Request Reply Continuation Action Input Fate Event : Type}

/-! ## Programs, states and steps -/

/-- What a handler leaves behind: the state of its client, the requests it
issued, each with the continuation to run on its reply, and what it showed. -/
structure Effect (Client Request Continuation Event : Type) where
  client : Client
  requests : List (Request × Continuation) := []
  events : List Event := []

/-- A client program and the server that answers it. A handler or continuation
without a value traps. A request is answered from what its client sees of the server, given
the requests of the client that are not answered yet. -/
structure Program (Client Server Request Reply Continuation Action Input Fate Event : Type) where
  handle : Action → Client → Option (Effect Client Request Continuation Event)
  resume : Continuation → Reply → Input → Client →
    Option (Effect Client Request Continuation Event)
  serve : Fate → Server → Request → Server × Reply
  seen : Client → List Request → Request → Server → Server := fun _ _ _ server => server

/-- A request in flight, with its reply once the server has handled it. -/
structure Task (Request Reply Continuation : Type) where
  client : Nat
  request : Request
  continuation : Continuation
  reply : Option Reply := none

/-- The clients, the server and the requests in flight. -/
structure State (Client Server Request Reply Continuation : Type) where
  clients : Nat → Client
  server : Server
  tasks : List (Task Request Reply Continuation)

/-- What the environment chooses next. Requests in flight are named by their
position. -/
inductive Label (Action Input Fate : Type) where
  | act (client : Nat) (action : Action)
  | serve (index : Nat) (fate : Fate)
  | deliver (index : Nat) (input : Input)

/-- What one step lets out: the client it ran for, the request it served if it
served one, the requests issued and the events shown. -/
structure Output (Request Continuation Event : Type) where
  client : Nat
  served : Option (Request × Continuation) := none
  requests : List (Request × Continuation) := []
  events : List Event := []

/-- The steps of a run and what they let out, the latest first. -/
abbrev Trace (Request Continuation Action Input Fate Event : Type) :=
  List (Label Action Input Fate × Output Request Continuation Event)

namespace State

/-- The requests of a client that are not answered yet, in the order in which they were issued. -/
def unanswered (s : State Client Server Request Reply Continuation) (client : Nat) :
    List Request :=
  (s.tasks.filter fun task => task.client == client && task.reply.isNone).map Task.request

theorem mem_unanswered {s : State Client Server Request Reply Continuation} {client : Nat}
    {request : Request} :
    request ∈ s.unanswered client ↔
      ∃ task ∈ s.tasks, task.client = client ∧ task.reply = none ∧ task.request = request := by
  simp [unanswered, and_assoc]

/-- Commit the effect of a handler of one client, with the given requests still
in flight. -/
def commit (s : State Client Server Request Reply Continuation) (client : Nat)
    (tasks : List (Task Request Reply Continuation))
    (effect : Effect Client Request Continuation Event) :
    State Client Server Request Reply Continuation where
  clients := Function.update s.clients client effect.client
  server := s.server
  tasks := tasks ++ effect.requests.map fun issued => ⟨client, issued.1, issued.2, none⟩

@[simp] theorem commit_server (s : State Client Server Request Reply Continuation) (client : Nat)
    (tasks : List (Task Request Reply Continuation))
    (effect : Effect Client Request Continuation Event) :
    (s.commit client tasks effect).server = s.server := rfl

@[simp] theorem commit_tasks (s : State Client Server Request Reply Continuation) (client : Nat)
    (tasks : List (Task Request Reply Continuation))
    (effect : Effect Client Request Continuation Event) :
    (s.commit client tasks effect).tasks =
      tasks ++ effect.requests.map fun issued => ⟨client, issued.1, issued.2, none⟩ := rfl

@[simp] theorem commit_clients_self (s : State Client Server Request Reply Continuation)
    (client : Nat) (tasks : List (Task Request Reply Continuation))
    (effect : Effect Client Request Continuation Event) :
    (s.commit client tasks effect).clients client = effect.client := by
  simp [commit]

theorem commit_clients_of_ne (s : State Client Server Request Reply Continuation)
    {client other : Nat} (tasks : List (Task Request Reply Continuation))
    (effect : Effect Client Request Continuation Event) (different : other ≠ client) :
    (s.commit client tasks effect).clients other = s.clients other := by
  simp [commit, different]

theorem forall_clients_commit {Q : Client → Prop}
    {s : State Client Server Request Reply Continuation} {client : Nat}
    {tasks : List (Task Request Reply Continuation)}
    {effect : Effect Client Request Continuation Event}
    (every : ∀ other, Q (s.clients other)) (own : Q effect.client) (other : Nat) :
    Q ((s.commit client tasks effect).clients other) := by
  by_cases same : other = client
  · rw [same, commit_clients_self]
    exact own
  · rw [commit_clients_of_ne s tasks effect same]
    exact every other

end State

namespace Program

variable (P : Program Client Server Request Reply Continuation Action Input Fate Event)

/-- The reply to a request, when it is served. -/
def answer (s : State Client Server Request Reply Continuation) (fate : Fate)
    (task : Task Request Reply Continuation) : Reply :=
  (P.serve fate
    (P.seen (s.clients task.client) (s.unanswered task.client) task.request s.server)
    task.request).2

/-- One step. There is none when the label names no request that can be served
or delivered, or when the handler traps. -/
def step (s : State Client Server Request Reply Continuation) :
    Label Action Input Fate →
      Option (Output Request Continuation Event × State Client Server Request Reply Continuation)
  | .act client action =>
      match P.handle action (s.clients client) with
      | none => none
      | some effect =>
          some ({ client, requests := effect.requests, events := effect.events },
            s.commit client s.tasks effect)
  | .serve index fate =>
      match s.tasks[index]? with
      | none => none
      | some task =>
          match task.reply with
          | some _ => none
          | none =>
              some ({ client := task.client, served := some (task.request, task.continuation) },
                { s with
                  server := (P.serve fate s.server task.request).1
                  tasks := s.tasks.set index { task with reply := some (P.answer s fate task) } })
  | .deliver index input =>
      match s.tasks[index]? with
      | none => none
      | some task =>
          match task.reply with
          | none => none
          | some reply =>
              match P.resume task.continuation reply input (s.clients task.client) with
              | none => none
              | some effect =>
                  some ({ client := task.client, requests := effect.requests,
                          events := effect.events },
                    s.commit task.client (s.tasks.eraseIdx index) effect)

theorem step_act {s : State Client Server Request Reply Continuation} {client : Nat}
    {action : Action} {effect : Effect Client Request Continuation Event}
    (handled : P.handle action (s.clients client) = some effect) :
    P.step s (.act client action) =
      some ({ client, requests := effect.requests, events := effect.events },
        s.commit client s.tasks effect) := by
  rw [step, handled]

theorem step_deliver {s : State Client Server Request Reply Continuation} {index : Nat}
    {input : Input} {task : Task Request Reply Continuation} {reply : Reply}
    {effect : Effect Client Request Continuation Event} (inFlight : s.tasks[index]? = some task)
    (answered : task.reply = some reply)
    (resumed : P.resume task.continuation reply input (s.clients task.client) = some effect) :
    P.step s (.deliver index input) =
      some ({ client := task.client, requests := effect.requests, events := effect.events },
        s.commit task.client (s.tasks.eraseIdx index) effect) := by
  simp only [step, inFlight, answered, resumed]

/-- Everything a step can do. -/
inductive StepCase (s : State Client Server Request Reply Continuation) :
    Label Action Input Fate → Output Request Continuation Event →
      State Client Server Request Reply Continuation → Prop where
  | act {client : Nat} {action : Action} {effect : Effect Client Request Continuation Event}
      (handled : P.handle action (s.clients client) = some effect) :
      StepCase s (.act client action)
        { client, requests := effect.requests, events := effect.events }
        (s.commit client s.tasks effect)
  | serve {index : Nat} {fate : Fate} {task : Task Request Reply Continuation}
      (inFlight : s.tasks[index]? = some task) (waiting : task.reply = none) :
      StepCase s (.serve index fate)
        { client := task.client, served := some (task.request, task.continuation) }
        { s with
          server := (P.serve fate s.server task.request).1
          tasks := s.tasks.set index { task with reply := some (P.answer s fate task) } }
  | deliver {index : Nat} {input : Input} {task : Task Request Reply Continuation} {reply : Reply}
      {effect : Effect Client Request Continuation Event}
      (inFlight : s.tasks[index]? = some task) (answered : task.reply = some reply)
      (resumed : P.resume task.continuation reply input (s.clients task.client) = some effect) :
      StepCase s (.deliver index input)
        { client := task.client, requests := effect.requests, events := effect.events }
        (s.commit task.client (s.tasks.eraseIdx index) effect)

variable {P}

/-- A step is one of its cases. -/
theorem stepCase_of_step {s s' : State Client Server Request Reply Continuation}
    {label : Label Action Input Fate} {output : Output Request Continuation Event}
    (stepped : P.step s label = some (output, s')) : P.StepCase s label output s' := by
  cases label with
  | act client action =>
      cases handled : P.handle action (s.clients client) with
      | none => simp [step, handled] at stepped
      | some effect =>
          simp only [step, handled, Option.some.injEq, Prod.mk.injEq] at stepped
          obtain ⟨rfl, rfl⟩ := stepped
          exact .act handled
  | serve index fate =>
      cases inFlight : s.tasks[index]? with
      | none => simp [step, inFlight] at stepped
      | some task =>
          cases waiting : task.reply with
          | some reply => simp [step, inFlight, waiting] at stepped
          | none =>
              simp only [step, inFlight, waiting, Option.some.injEq, Prod.mk.injEq] at stepped
              obtain ⟨rfl, rfl⟩ := stepped
              exact .serve inFlight waiting
  | deliver index input =>
      cases inFlight : s.tasks[index]? with
      | none => simp [step, inFlight] at stepped
      | some task =>
          cases answered : task.reply with
          | none => simp [step, inFlight, answered] at stepped
          | some reply =>
              cases resumed : P.resume task.continuation reply input (s.clients task.client) with
              | none => simp [step, inFlight, answered, resumed] at stepped
              | some effect =>
                  simp only [step, inFlight, answered, resumed, Option.some.injEq,
                    Prod.mk.injEq] at stepped
                  obtain ⟨rfl, rfl⟩ := stepped
                  exact .deliver inFlight answered resumed

/-- A request in flight after a step was in flight before it, or was issued in it. -/
theorem mem_tasks_of_stepCase {s s' : State Client Server Request Reply Continuation}
    {label : Label Action Input Fate} {output : Output Request Continuation Event}
    {task : Task Request Reply Continuation} (stepped : P.StepCase s label output s')
    (member : task ∈ s'.tasks) :
    (∃ earlier ∈ s.tasks, earlier.client = task.client ∧ earlier.request = task.request) ∨
    ∃ issued ∈ output.requests, task = ⟨output.client, issued.1, issued.2, none⟩ := by
  have issuedOf : ∀ {client : Nat} {requests : List (Request × Continuation)},
      task ∈ requests.map (fun issued => ⟨client, issued.1, issued.2, none⟩) →
        ∃ issued ∈ requests, task = ⟨client, issued.1, issued.2, none⟩ := by
    intro client requests new
    obtain ⟨issued, requested, same⟩ := List.mem_map.mp new
    exact ⟨issued, requested, same.symm⟩
  cases stepped with
  | act handled =>
      rcases List.mem_append.mp member with old | new
      · exact .inl ⟨task, old, rfl, rfl⟩
      · exact .inr (issuedOf new)
  | serve inFlight waiting =>
      rcases List.mem_or_eq_of_mem_set member with old | rfl
      · exact .inl ⟨task, old, rfl, rfl⟩
      · exact .inl ⟨_, List.mem_of_getElem? inFlight, rfl, rfl⟩
  | deliver inFlight answered resumed =>
      rcases List.mem_append.mp member with old | new
      · exact .inl ⟨task, List.eraseIdx_subset old, rfl, rfl⟩
      · exact .inr (issuedOf new)

/-- A reply in flight after a step was in flight before it, or is the answer given in it. -/
theorem reply_of_stepCase {s s' : State Client Server Request Reply Continuation}
    {label : Label Action Input Fate} {output : Output Request Continuation Event}
    {task : Task Request Reply Continuation} {reply : Reply}
    (stepped : P.StepCase s label output s') (member : task ∈ s'.tasks)
    (replied : task.reply = some reply) :
    task ∈ s.tasks ∨ ∃ fate, ∃ served ∈ s.tasks, served.reply = none ∧
      task = { served with reply := some reply } ∧ reply = P.answer s fate served := by
  have notIssued : ∀ {client : Nat} {requests : List (Request × Continuation)},
      task ∉ requests.map (fun issued => ⟨client, issued.1, issued.2, none⟩) := by
    intro client requests new
    obtain ⟨issued, requested, rfl⟩ := List.mem_map.mp new
    cases replied
  cases stepped with
  | act handled => exact .inl ((List.mem_append.mp member).resolve_right notIssued)
  | @serve index fate served inFlight waiting =>
      rcases List.mem_or_eq_of_mem_set member with old | rfl
      · exact .inl old
      · obtain rfl := Option.some.inj replied
        exact .inr ⟨fate, served, List.mem_of_getElem? inFlight, waiting, rfl, rfl⟩
  | deliver inFlight answered resumed =>
      have old := (List.mem_append.mp member).resolve_right notIssued
      exact .inl (List.eraseIdx_subset old)

/-- What happens next to the only request in flight, unless a client acts. -/
theorem stepCase_of_single {s s' : State Client Server Request Reply Continuation}
    {label : Label Action Input Fate} {output : Output Request Continuation Event}
    {task : Task Request Reply Continuation} (single : s.tasks = [task])
    (stepped : P.StepCase s label output s') :
    (∃ client action, label = .act client action) ∨
    (∃ index fate, label = .serve index fate ∧ task.reply = none ∧ output.events = [] ∧
      s' = { s with
        server := (P.serve fate s.server task.request).1
        tasks := [{ task with reply := some (P.answer s fate task) }] }) ∨
    (∃ index input reply effect, label = .deliver index input ∧ task.reply = some reply ∧
      P.resume task.continuation reply input (s.clients task.client) = some effect ∧
      output.events = effect.events ∧ s' = s.commit task.client [] effect) := by
  cases stepped with
  | act handled => exact .inl ⟨_, _, rfl⟩
  | @serve index fate served inFlight waiting =>
      rw [single, List.getElem?_singleton] at inFlight
      split at inFlight
      · rename_i first
        obtain rfl := Option.some.inj inFlight
        refine .inr (.inl ⟨index, fate, rfl, waiting, rfl, ?_⟩)
        simp [single, first]
      · cases inFlight
  | @deliver index input delivered reply effect inFlight answered resumed =>
      rw [single, List.getElem?_singleton] at inFlight
      split at inFlight
      · rename_i first
        obtain rfl := Option.some.inj inFlight
        refine .inr (.inr ⟨index, input, reply, effect, rfl, answered, resumed, rfl, ?_⟩)
        simp [single, first]
      · cases inFlight

theorem serve_of_waiting {s s' : State Client Server Request Reply Continuation}
    {label : Label Action Input Fate} {output : Output Request Continuation Event}
    {task : Task Request Reply Continuation} (single : s.tasks = [task])
    (waiting : task.reply = none) (noAction : ¬ ∃ client action, label = .act client action)
    (stepped : P.StepCase s label output s') :
    ∃ index fate, label = .serve index fate ∧ output.events = [] ∧
      s' = { s with
        server := (P.serve fate s.server task.request).1
        tasks := [{ task with reply := some (P.answer s fate task) }] } := by
  rcases stepCase_of_single single stepped with acts | ⟨index, fate, serves, _, events, result⟩ |
    ⟨_, _, _, _, _, answered, _⟩
  · exact absurd acts noAction
  · exact ⟨index, fate, serves, events, result⟩
  · rw [waiting] at answered
    cases answered

theorem deliver_of_answered {s s' : State Client Server Request Reply Continuation}
    {label : Label Action Input Fate} {output : Output Request Continuation Event}
    {task : Task Request Reply Continuation} {reply : Reply} (single : s.tasks = [task])
    (answered : task.reply = some reply)
    (noAction : ¬ ∃ client action, label = .act client action)
    (stepped : P.StepCase s label output s') :
    ∃ index input effect, label = .deliver index input ∧
      P.resume task.continuation reply input (s.clients task.client) = some effect ∧
      output.events = effect.events ∧ s' = s.commit task.client [] effect := by
  rcases stepCase_of_single single stepped with acts | ⟨_, _, _, waiting, _⟩ |
    ⟨index, input, _, effect, delivers, delivered, resumed, events, result⟩
  · exact absurd acts noAction
  · rw [answered] at waiting
    cases waiting
  · obtain rfl := Option.some.inj (answered.symm.trans delivered)
    exact ⟨index, input, effect, delivers, resumed, events, result⟩

theorem stepCase_of_idle {s s' : State Client Server Request Reply Continuation}
    {label : Label Action Input Fate} {output : Output Request Continuation Event}
    (idle : s.tasks = []) (stepped : P.StepCase s label output s') :
    ∃ client action, label = .act client action := by
  cases stepped with
  | act handled => exact ⟨_, _, rfl⟩
  | serve inFlight waiting => simp [idle] at inFlight
  | deliver inFlight answered resumed => simp [idle] at inFlight

variable (P)

/-! ## Runs -/

/-- The runs whose every step the guard allows, given what happened before. -/
inductive Run
    (allowed : Trace Request Continuation Action Input Fate Event →
      State Client Server Request Reply Continuation → Label Action Input Fate → Prop)
    (s₀ : State Client Server Request Reply Continuation) :
    Trace Request Continuation Action Input Fate Event →
      State Client Server Request Reply Continuation → Prop where
  | start : Run allowed s₀ [] s₀
  | step {trace : Trace Request Continuation Action Input Fate Event}
      {s s' : State Client Server Request Reply Continuation} {label : Label Action Input Fate}
      {output : Output Request Continuation Event}
      (before : Run allowed s₀ trace s) (permitted : allowed trace s label)
      (stepped : P.step s label = some (output, s')) :
      Run allowed s₀ ((label, output) :: trace) s'

/-- The guard that allows every step. -/
def anyStep (_ : Trace Request Continuation Action Input Fate Event)
    (_ : State Client Server Request Reply Continuation) (_ : Label Action Input Fate) : Prop :=
  True

instance (trace : Trace Request Continuation Action Input Fate Event)
    (s : State Client Server Request Reply Continuation) (label : Label Action Input Fate) :
    Decidable (anyStep trace s label) :=
  inferInstanceAs (Decidable True)

/-- Follow a list of labels, as long as the guard allows each of them and it is a
step. -/
def execute
    (allowed : Trace Request Continuation Action Input Fate Event →
      State Client Server Request Reply Continuation → Label Action Input Fate → Prop)
    [∀ trace s label, Decidable (allowed trace s label)]
    (s : State Client Server Request Reply Continuation) :
    List (Label Action Input Fate) → Trace Request Continuation Action Input Fate Event →
      Option (Trace Request Continuation Action Input Fate Event ×
        State Client Server Request Reply Continuation)
  | [], trace => some (trace, s)
  | label :: rest, trace =>
      if allowed trace s label then
        match P.step s label with
        | none => none
        | some (output, s') => execute allowed s' rest ((label, output) :: trace)
      else none

variable {P}

/-- What holds at the start and survives every allowed step holds in every run. -/
theorem Run.invariant
    {allowed : Trace Request Continuation Action Input Fate Event →
      State Client Server Request Reply Continuation → Label Action Input Fate → Prop}
    {s₀ s : State Client Server Request Reply Continuation}
    {trace : Trace Request Continuation Action Input Fate Event}
    (run : P.Run allowed s₀ trace s)
    {I : Trace Request Continuation Action Input Fate Event →
      State Client Server Request Reply Continuation → Prop}
    (initial : I [] s₀)
    (preserved : ∀ {trace s label output s'}, I trace s → allowed trace s label →
      P.StepCase s label output s' → I ((label, output) :: trace) s') : I trace s := by
  induction run with
  | start => exact initial
  | step _ permitted stepped ih => exact preserved ih permitted (stepCase_of_step stepped)

/-- A list of labels that can be followed extends a run. -/
theorem Run.of_execute
    {allowed : Trace Request Continuation Action Input Fate Event →
      State Client Server Request Reply Continuation → Label Action Input Fate → Prop}
    [∀ trace s label, Decidable (allowed trace s label)]
    {s₀ s s' : State Client Server Request Reply Continuation}
    {trace later : Trace Request Continuation Action Input Fate Event}
    {labels : List (Label Action Input Fate)} (run : P.Run allowed s₀ trace s)
    (executed : P.execute allowed s labels trace = some (later, s')) :
    P.Run allowed s₀ later s' := by
  induction labels generalizing s trace with
  | nil =>
      simp only [execute, Option.some.injEq, Prod.mk.injEq] at executed
      obtain ⟨rfl, rfl⟩ := executed
      exact run
  | cons label rest ih =>
      by_cases permitted : allowed trace s label
      · cases stepped : P.step s label with
        | none => simp [execute, permitted, stepped] at executed
        | some next =>
            simp only [execute, permitted, if_true, stepped] at executed
            exact ih (.step run permitted stepped) executed
      · simp [execute, permitted] at executed

end Program

/-! ## Requests in flight and their clients -/

namespace State

variable {Q : Client → Task Request Reply Continuation → Prop}
  {s : State Client Server Request Reply Continuation}

/-- Every request in flight is related by `Q` to the state of its client. -/
def EveryTask (Q : Client → Task Request Reply Continuation → Prop)
    (s : State Client Server Request Reply Continuation) : Prop :=
  ∀ task ∈ s.tasks, Q (s.clients task.client) task

/-- A handler keeps the relation when the other requests of its client stay
related to the new state of the client and the issued ones are related to it. -/
theorem EveryTask.commit (every : s.EveryTask Q) {client : Nat}
    {tasks : List (Task Request Reply Continuation)} (remaining : tasks ⊆ s.tasks)
    {effect : Effect Client Request Continuation Event}
    (own : ∀ task ∈ tasks, task.client = client → Q (s.clients client) task → Q effect.client task)
    (issued : ∀ r ∈ effect.requests, Q effect.client ⟨client, r.1, r.2, none⟩) :
    (s.commit client tasks effect).EveryTask Q := by
  intro task member
  rw [commit_tasks, List.mem_append, List.mem_map] at member
  rcases member with old | ⟨r, member, rfl⟩
  · by_cases same : task.client = client
    · have related := own task old same (same ▸ every task (remaining old))
      rwa [same, commit_clients_self]
    · rw [commit_clients_of_ne s tasks effect same]
      exact every task (remaining old)
  · simpa using issued r member

/-- Serving a request keeps the relation when the request is still related to its
client once it carries its reply. -/
theorem EveryTask.serve (every : s.EveryTask Q) {index : Nat}
    {task : Task Request Reply Continuation} (server : Server) {reply : Reply}
    (answered : Q (s.clients task.client) { task with reply := some reply }) :
    State.EveryTask Q
      { s with server, tasks := s.tasks.set index { task with reply := some reply } } := by
  intro other member
  rcases List.mem_or_eq_of_mem_set member with old | rfl
  · exact every other old
  · exact answered

/-! ## One request among the others -/

theorem perm_cons_eraseIdx {tasks : List (Task Request Reply Continuation)} {index : Nat}
    {task : Task Request Reply Continuation} (inFlight : tasks[index]? = some task) :
    tasks.Perm (task :: tasks.eraseIdx index) := by
  obtain ⟨inRange, rfl⟩ := List.getElem?_eq_some_iff.mp inFlight
  exact (List.getElem_cons_eraseIdx_perm inRange).symm

theorem perm_eraseIdx {tasks others : List (Task Request Reply Continuation)} {index : Nat}
    {task : Task Request Reply Continuation} (inFlight : tasks[index]? = some task)
    (arranged : tasks.Perm (task :: others)) : (tasks.eraseIdx index).Perm others :=
  ((perm_cons_eraseIdx inFlight).symm.trans arranged).cons_inv

theorem perm_set {tasks others : List (Task Request Reply Continuation)} {index : Nat}
    {task : Task Request Reply Continuation} (served : Task Request Reply Continuation)
    (inFlight : tasks[index]? = some task) (arranged : tasks.Perm (task :: others)) :
    (tasks.set index served).Perm (served :: others) := by
  have inRange := (List.getElem?_eq_some_iff.mp inFlight).1
  exact (List.set_perm_cons_eraseIdx inRange served).trans
    ((perm_eraseIdx inFlight arranged).cons served)

end State

end RequestReply

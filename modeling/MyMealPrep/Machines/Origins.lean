import Mathlib.Data.Set.Lattice
import MyMealPrep.Machines.RequestReply

/-!
# Where values come from

Values travel through a program: clients hold some, requests carry them to the server,
replies bring them back. `Carriers` says which values each of these holds. When handlers,
callbacks and the server only pass values on (`Carriers.Law`), every value held anywhere
was held at the start, or came in with an action or with an answer from outside
(`Law.origins_run`).
-/

set_option autoImplicit false

namespace RequestReply

variable {Client Server Request Reply Continuation Action Input Fate Event α : Type}
  {P : Program Client Server Request Reply Continuation Action Input Fate Event}

/-- The values held by clients, the server, requests and replies, and those that come in with an
action, or from outside when a request is served. -/
structure Carriers (P : Program Client Server Request Reply Continuation Action Input Fate Event)
    (α : Type) where
  ofClient : Client → Set α
  ofServer : Server → Set α
  ofRequest : Request → Set α
  ofReply : Reply → Set α
  ofAction : Action → Set α
  outside : Fate → Request → Set α

namespace Carriers

variable (C : Carriers P α)

/-- Values are passed on and not made. -/
structure Law : Prop where
  handle : ∀ {action client effect}, P.handle action client = some effect →
    C.ofClient effect.client ⊆ C.ofClient client ∪ C.ofAction action ∧
      ∀ issued ∈ effect.requests, C.ofRequest issued.1 ⊆ C.ofClient client ∪ C.ofAction action
  resume : ∀ {continuation reply input client effect},
    P.resume continuation reply input client = some effect →
    C.ofClient effect.client ⊆ C.ofClient client ∪ C.ofReply reply ∧
      ∀ issued ∈ effect.requests, C.ofRequest issued.1 ⊆ C.ofClient client ∪ C.ofReply reply
  serve : ∀ fate server request,
    C.ofServer (P.serve fate server request).1 ⊆ C.ofServer server ∪ C.ofRequest request
  answer : ∀ s fate task,
    C.ofReply (P.answer s fate task) ⊆ C.ofServer s.server ∪ C.outside fate task.request

/-- The values held at the start. -/
def initial (s₀ : State Client Server Request Reply Continuation) : Set α :=
  (⋃ client, C.ofClient (s₀.clients client)) ∪ C.ofServer s₀.server

/-- The values that a step brings in. -/
def broughtIn (label : Label Action Input Fate) (output : Output Request Continuation Event) :
    Set α :=
  match label with
  | .act _ action => C.ofAction action
  | .serve _ fate => ⋃ served ∈ output.served, C.outside fate served.1
  | .deliver _ _ => ∅

/-- The values of the start, and those that came in since. -/
def origins (s₀ : State Client Server Request Reply Continuation)
    (trace : Trace Request Continuation Action Input Fate Event) : Set α :=
  C.initial s₀ ∪ ⋃ entry ∈ trace, C.broughtIn entry.1 entry.2

/-- Nobody holds a value that is not in the set. -/
structure Within (values : Set α) (s : State Client Server Request Reply Continuation) : Prop where
  clients : ∀ client, C.ofClient (s.clients client) ⊆ values
  server : C.ofServer s.server ⊆ values
  requests : ∀ task ∈ s.tasks, C.ofRequest task.request ⊆ values
  replies : ∀ task ∈ s.tasks, ∀ reply ∈ task.reply, C.ofReply reply ⊆ values

variable {C} {s s' : State Client Server Request Reply Continuation}
  {label : Label Action Input Fate} {output : Output Request Continuation Event}
  {values more : Set α}

theorem Within.mono (within : C.Within values s) (fewer : values ⊆ more) : C.Within more s where
  clients client := (within.clients client).trans fewer
  server := within.server.trans fewer
  requests task member := (within.requests task member).trans fewer
  replies task member reply answered := (within.replies task member reply answered).trans fewer

/-- A handler or a callback that passes values on keeps them in the set. -/
theorem Within.commit (within : C.Within values s) {actor : Nat}
    {tasks : List (Task Request Reply Continuation)} (remaining : tasks ⊆ s.tasks)
    {effect : Effect Client Request Continuation Event} (kept : C.ofClient effect.client ⊆ values)
    (issued : ∀ issued ∈ effect.requests, C.ofRequest issued.1 ⊆ values) :
    C.Within values (s.commit actor tasks effect) where
  clients := State.forall_clients_commit (Q := fun client => C.ofClient client ⊆ values)
    within.clients kept
  server := within.server
  requests task member := by
    rcases List.mem_append.mp member with old | new
    · exact within.requests task (remaining old)
    · obtain ⟨request, requested, rfl⟩ := List.mem_map.mp new
      exact issued request requested
  replies task member reply answered := by
    rcases List.mem_append.mp member with old | new
    · exact within.replies task (remaining old) reply answered
    · obtain ⟨request, requested, rfl⟩ := List.mem_map.mp new
      cases answered

/-- **A step keeps the values in the set**, with those that it brings in. -/
theorem Law.within_step (law : C.Law) (within : C.Within values s)
    (stepped : P.StepCase s label output s') (brought : C.broughtIn label output ⊆ values) :
    C.Within values s' := by
  cases stepped with
  | @act actor action effect handled =>
      obtain ⟨kept, issued⟩ := law.handle handled
      have known : C.ofClient (s.clients actor) ∪ C.ofAction action ⊆ values :=
        Set.union_subset (within.clients actor) brought
      exact within.commit (List.Subset.refl _) (kept.trans known)
        fun request requested => (issued request requested).trans known
  | @serve index fate task inFlight waiting =>
      have member := List.mem_of_getElem? inFlight
      have stored := law.serve fate s.server task.request
      have answered := law.answer s fate task
      refine ⟨within.clients, ?_, ?_, ?_⟩
      · exact stored.trans (Set.union_subset within.server (within.requests task member))
      · intro other otherMember
        rcases List.mem_or_eq_of_mem_set otherMember with old | rfl
        · exact within.requests other old
        · exact within.requests task member
      · intro other otherMember reply replied
        rcases List.mem_or_eq_of_mem_set otherMember with old | rfl
        · exact within.replies other old reply replied
        · obtain rfl := Option.some.inj replied
          refine answered.trans (Set.union_subset within.server fun value here => brought ?_)
          exact Set.mem_biUnion (x := (task.request, task.continuation)) rfl here
  | @deliver index input task reply effect inFlight answered resumed =>
      have member := List.mem_of_getElem? inFlight
      obtain ⟨kept, issued⟩ := law.resume resumed
      have known : C.ofClient (s.clients task.client) ∪ C.ofReply reply ⊆ values :=
        Set.union_subset (within.clients task.client) (within.replies task member reply answered)
      exact within.commit List.eraseIdx_subset (kept.trans known)
        fun request requested => (issued request requested).trans known

/-- **Every value held anywhere was held at the start or has come in since**, in every run. -/
theorem Law.origins_run (law : C.Law) {s₀ : State Client Server Request Reply Continuation}
    (idle : s₀.tasks = [])
    {allowed : Trace Request Continuation Action Input Fate Event →
      State Client Server Request Reply Continuation → Label Action Input Fate → Prop}
    {trace : Trace Request Continuation Action Input Fate Event} (run : P.Run allowed s₀ trace s) :
    C.Within (C.origins s₀ trace) s := by
  refine run.invariant (I := fun trace s => C.Within (C.origins s₀ trace) s) ?_ ?_
  · refine ⟨fun client => ?_, ?_, by simp [idle], by simp [idle]⟩
    · exact (Set.subset_iUnion (fun client => C.ofClient (s₀.clients client)) client).trans
        (Set.subset_union_left.trans Set.subset_union_left)
    · exact Set.subset_union_right.trans Set.subset_union_left
  · intro trace s label output s' within permitted stepped
    have extended : C.origins s₀ trace ⊆ C.origins s₀ ((label, output) :: trace) :=
      Set.union_subset_union_right _
        (Set.biUnion_subset_biUnion_left fun entry member => List.mem_cons_of_mem _ member)
    have brought : C.broughtIn label output ⊆ C.origins s₀ ((label, output) :: trace) := by
      intro value here
      exact .inr (Set.mem_biUnion (x := (label, output)) List.mem_cons_self here)
    exact law.within_step (within.mono extended) stepped brought

end Carriers

end RequestReply

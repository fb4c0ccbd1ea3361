import MyMealPrep.Machines.ServedLogs

/-!
# Clients that see their own writes

Some clients keep a local store. It answers a request from the contents of the server as the
client's own requests in flight are going to change them, both taken when the request is
served: for a query that is the moment when the store makes up the answer. So a client sees a
write as soon as it has issued it, and every other client once it has been served.

`Program.withLocalWrites` gives the clients of a program such a store. What a client sees is
the replay of the requests served, and after them of its own that wait
(`Log.contents_withOwn`): what is stored, or what it is about to write itself
(`Store.contents_withOwn`). Handlers and the server are those of the program, so the server
is the same store (`Store.withLocalWrites`), and what the requests of the program write they
still write (`goodValues_run`). A run in which no answer depends on the local store is a run
of the program (`run_withLocalWrites_iff`).
-/

set_option autoImplicit false

namespace RequestReply

variable {Client Server Request Reply Continuation Action Input Fate Event κ ν : Type}

namespace Program

variable (P : Program Client Server Request Reply Continuation Action Input Fate Event)

/-- The server once the given requests have been served with success, in their order. -/
def withOwn (success : Fate) (server : Server) (requests : List Request) : Server :=
  requests.foldl (fun server request => (P.serve success server request).1) server

/-- The program whose clients see their own requests in flight. -/
def withLocalWrites (success : Fate) :
    Program Client Server Request Reply Continuation Action Input Fate Event :=
  { P with seen := fun _ unanswered _ server => P.withOwn success server unanswered }

variable {P} {success : Fate} {s₀ s s' : State Client Server Request Reply Continuation}
  {label : Label Action Input Fate} {output : Output Request Continuation Event}
  {trace : Trace Request Continuation Action Input Fate Event}
  {allowed : Trace Request Continuation Action Input Fate Event →
    State Client Server Request Reply Continuation → Label Action Input Fate → Prop}

theorem withOwn_eq_self {server : Server} {requests : List Request}
    (unchanged : ∀ request ∈ requests, (P.serve success server request).1 = server) :
    P.withOwn success server requests = server := by
  induction requests with
  | nil => rfl
  | cons request rest ih =>
      rw [withOwn, List.foldl_cons, unchanged request List.mem_cons_self]
      exact ih fun other member => unchanged other (List.mem_cons_of_mem _ member)

/-- A step of a program with local stores is one of the program, up to the replies. -/
theorem stepCase_of_withLocalWrites
    (stepped : (P.withLocalWrites success).StepCase s label output s') :
    ∃ tasks, P.StepCase s label output { s' with tasks } := by
  cases stepped with
  | act handled => exact ⟨_, .act handled⟩
  | serve inFlight waiting => exact ⟨_, .serve inFlight waiting⟩
  | deliver inFlight answered resumed => exact ⟨_, .deliver inFlight answered resumed⟩

/-! ## Answers that do not depend on the local store -/

/-- The step serves no request that the local store of its client answers otherwise than the
server would. -/
def AnswersAgree (P : Program Client Server Request Reply Continuation Action Input Fate Event)
    (success : Fate) (s : State Client Server Request Reply Continuation)
    (label : Label Action Input Fate) : Prop :=
  ∀ index fate task, label = .serve index fate → s.tasks[index]? = some task →
    (P.withLocalWrites success).answer s fate task = P.answer s fate task

theorem step_withLocalWrites (agree : P.AnswersAgree success s label) :
    (P.withLocalWrites success).step s label = P.step s label := by
  cases label with
  | act client action => rfl
  | deliver index input => rfl
  | serve index fate =>
      cases inFlight : s.tasks[index]? with
      | none => simp only [step, inFlight]
      | some task =>
          simp only [step, inFlight, agree index fate task rfl inFlight]
          rfl

/-- **While the answers agree, the runs are the same.** -/
theorem run_withLocalWrites_iff
    (agree : ∀ {trace s label}, allowed trace s label → P.AnswersAgree success s label) :
    (P.withLocalWrites success).Run allowed s₀ trace s ↔ P.Run allowed s₀ trace s := by
  constructor
  · intro run
    induction run with
    | start => exact .start
    | step _ permitted stepped ih =>
        exact .step ih permitted ((step_withLocalWrites (agree permitted)).symm.trans stepped)
  · intro run
    induction run with
    | start => exact .start
    | step _ permitted stepped ih =>
        exact .step ih permitted ((step_withLocalWrites (agree permitted)).trans stepped)

end Program

variable {P : Program Client Server Request Reply Continuation Action Input Fate Event}
  {success : Fate}

/-! ## What a client sees -/

/-- A client sees the contents of the server after its own changes, the latest of which
decides. -/
theorem Log.contents_withOwn [DecidableEq κ] {contents : Server → κ → Option ν}
    (L : Log P contents) (success : Fate) (server : Server) (requests : List Request) :
    contents (P.withOwn success server requests) =
      replay (contents server) (requests.filterMap (L.change success)).reverse := by
  induction requests generalizing server with
  | nil => rfl
  | cons request rest ih =>
      rw [Program.withOwn, List.foldl_cons]
      refine (ih _).trans ?_
      rw [L.contents_serve]
      cases changed : L.change success request with
      | none => rw [List.filterMap_cons_none changed, Option.toList_none, replay_nil]
      | some change =>
          rw [List.filterMap_cons_some changed, List.reverse_cons, replay_append]
          rfl

/-! ## The store that a client sees -/

namespace Store

variable (K : Store P κ ν)

/-- **What a client sees** is stored, or the client is about to write it. -/
theorem contents_withOwn {server : Server} {requests : List Request} {key : κ} {value : ν}
    (held : K.contents (P.withOwn success server requests) key = some value) :
    K.contents server key = some value ∨
      ∃ request ∈ requests, K.writes request = some (key, value) := by
  induction requests generalizing server with
  | nil => exact .inl held
  | cons request rest ih =>
      rcases ih held with served | ⟨later, member, written⟩
      · rcases K.contents_serve served with stored | written
        · exact .inl stored
        · exact .inr ⟨request, List.mem_cons_self, written⟩
      · exact .inr ⟨later, List.mem_cons_of_mem _ member, written⟩

/-- The server lists what it has. -/
def ServesStored : Prop :=
  ∀ (fate : Fate) (server : Server) (request : Request) (key : κ) (value : ν),
    (key, value) ∈ K.lists (P.serve fate server request).2 → K.contents server key = some value

/-- The same store, seen from clients with local stores. -/
def withLocalWrites (success : Fate) (serves : K.ServesStored) :
    Store (P.withLocalWrites success) κ ν where
  contents := K.contents
  writes := K.writes
  removes := K.removes
  lists := K.lists
  contents_serve := K.contents_serve
  removes_serve := K.removes_serve
  lists_answer listed := K.contents_withOwn (serves _ _ _ _ _ listed)

variable {K} {serves : K.ServesStored} {old : κ → Prop}
  {trace : Trace Request Continuation Action Input Fate Event}

theorem FreshlyIssued.withLocalWrites {requests : List (Request × Continuation)}
    (fresh : K.FreshlyIssued old trace requests) :
    (K.withLocalWrites success serves).FreshlyIssued old trace requests where
  nodup := fresh.nodup
  unknown := fresh.unknown

end Store

/-! ## What is written -/

section

variable (K : Store P κ ν) (good : κ → ν → Prop)

/-- The values stored and those on their way to the server are good under their keys. -/
structure GoodValues (s : State Client Server Request Reply Continuation) : Prop where
  stored : ∀ key value, K.contents s.server key = some value → good key value
  inFlight : ∀ task ∈ s.tasks, ∀ key value, K.writes task.request = some (key, value) →
    good key value

variable {K good} {s₀ s : State Client Server Request Reply Continuation}
  {trace : Trace Request Continuation Action Input Fate Event}
  {allowed : Trace Request Continuation Action Input Fate Event →
    State Client Server Request Reply Continuation → Label Action Input Fate → Prop}

/-- **Values stay good** when every request issued writes a good one. -/
theorem goodValues_run (initial : GoodValues K good s₀)
    (issues : ∀ {s label output s'}, P.StepCase s label output s' →
      ∀ issued ∈ output.requests, ∀ key value, K.writes issued.1 = some (key, value) →
        good key value)
    (run : (P.withLocalWrites success).Run allowed s₀ trace s) : GoodValues K good s := by
  refine run.invariant (I := fun _ s => GoodValues K good s) initial ?_
  intro trace s label output s' kept _ stepped
  refine ⟨fun key value stored => ?_, fun task member key value written => ?_⟩
  · cases stepped with
    | act handled => exact kept.stored key value stored
    | deliver inFlight answered resumed => exact kept.stored key value stored
    | serve inFlight waiting =>
        rcases K.contents_serve stored with before | written
        · exact kept.stored key value before
        · exact kept.inFlight _ (List.mem_of_getElem? inFlight) key value written
  · rcases Program.mem_tasks_of_stepCase stepped member with
      ⟨earlier, before, -, same⟩ | ⟨issued, requested, rfl⟩
    · exact kept.inFlight earlier before key value (same ▸ written)
    · obtain ⟨tasks, underlying⟩ := Program.stepCase_of_withLocalWrites stepped
      exact issues underlying issued requested key value written

theorem GoodValues.seen (kept : GoodValues K good s) (success : Fate) (client : Nat) :
    ∀ key value, K.contents (P.withOwn success s.server (s.unanswered client)) key = some value →
      good key value := by
  intro key value held
  rcases K.contents_withOwn held with stored | ⟨request, own, written⟩
  · exact kept.stored key value stored
  · obtain ⟨task, inFlight, -, -, rfl⟩ := State.mem_unanswered.mp own
    exact kept.inFlight task inFlight key value written

end

end RequestReply

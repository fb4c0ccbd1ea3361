import MyMealPrep.Machines.FreshKeys

/-!
# Stores as replays of what was served

The server of a keyed store changes one key for each request that it handles, or
none. So its contents are those at the start, changed by the requests served, in
the order in which they were served (`Log.contents_step`): the store is a replay of
its log (`Log.contents_run`). No request is lost and none counts twice.

A reply is given in one state of the run. Seen from the client that asked, its moment lies
between the asking and the arrival of the reply (`answered_run`).
-/

set_option autoImplicit false

namespace RequestReply

variable {Client Server Request Reply Continuation Action Input Fate Event κ ν : Type}

/-! ## Replays -/

section

variable [DecidableEq κ]

/-- Contents after changes, the latest change first. A change gives a key a value or takes
its value away. -/
def replay (initial : κ → Option ν) (changes : List (κ × Option ν)) : κ → Option ν :=
  changes.foldr (fun change contents => Function.update contents change.1 change.2) initial

@[simp] theorem replay_nil (initial : κ → Option ν) : replay initial [] = initial := rfl

theorem replay_cons (initial : κ → Option ν) (change : κ × Option ν)
    (earlier : List (κ × Option ν)) :
    replay initial (change :: earlier) =
      Function.update (replay initial earlier) change.1 change.2 := rfl

theorem replay_append (initial : κ → Option ν) (later earlier : List (κ × Option ν)) :
    replay initial (later ++ earlier) = replay (replay initial earlier) later :=
  List.foldr_append

theorem replay_singleton (initial : κ → Option ν) (key other : κ) (value : Option ν) :
    replay initial [(key, value)] other = if key = other then value else initial other := by
  rw [replay_cons, replay_nil, Function.update_apply]
  exact if_congr eq_comm rfl rfl

/-- **The latest change of a key decides**, and without one the key is as it was. -/
theorem replay_apply (initial : κ → Option ν) (changes : List (κ × Option ν)) (key : κ) :
    replay initial changes key = (changes.lookup key).getD (initial key) := by
  induction changes with
  | nil => rfl
  | cons change earlier ih =>
      rw [replay_cons, List.lookup_cons]
      by_cases same : key = change.1
      · subst same
        rw [Function.update_self, beq_self_eq_true]
        rfl
      · rw [Function.update_of_ne same, ih, beq_eq_false_iff_ne.mpr same]

end

/-! ## Logs -/

variable {P : Program Client Server Request Reply Continuation Action Input Fate Event}

/-- What the server of a store does to it, exactly: the change that a request makes. -/
structure Log [DecidableEq κ]
    (P : Program Client Server Request Reply Continuation Action Input Fate Event)
    (contents : Server → κ → Option ν) where
  change : Fate → Request → Option (κ × Option ν)
  contents_serve : ∀ (fate : Fate) (server : Server) (request : Request),
    contents (P.serve fate server request).1 =
      replay (contents server) (change fate request).toList

namespace Log

variable [DecidableEq κ] {contents : Server → κ → Option ν} (L : Log P contents)

/-- The change that a step makes, when it serves a request. -/
def changeOf (entry : Label Action Input Fate × Output Request Continuation Event) :
    Option (κ × Option ν) :=
  match entry.1 with
  | .serve _ fate => entry.2.served.bind fun issued => L.change fate issued.1
  | _ => none

/-- The changes of a run, the latest first. -/
def changes (trace : Trace Request Continuation Action Input Fate Event) :
    List (κ × Option ν) :=
  trace.filterMap L.changeOf

/-- The contents of the store after a run that starts with the given ones. -/
def contentsAfter (initial : κ → Option ν)
    (trace : Trace Request Continuation Action Input Fate Event) : κ → Option ν :=
  replay initial (L.changes trace)

variable {L}
variable {trace : Trace Request Continuation Action Input Fate Event}
  {s₀ s s' : State Client Server Request Reply Continuation} {label : Label Action Input Fate}
  {output : Output Request Continuation Event}
  {allowed : Trace Request Continuation Action Input Fate Event →
    State Client Server Request Reply Continuation → Label Action Input Fate → Prop}

theorem contentsAfter_cons (initial : κ → Option ν)
    (entry : Label Action Input Fate × Output Request Continuation Event) :
    L.contentsAfter initial (entry :: trace) =
      replay (L.contentsAfter initial trace) (L.changeOf entry).toList := by
  rw [contentsAfter, changes]
  cases changed : L.changeOf entry with
  | none =>
      rw [List.filterMap_cons_none changed]
      rfl
  | some change =>
      rw [List.filterMap_cons_some changed]
      rfl

/-- One step changes the store as its log says. -/
theorem contents_step (stepped : P.StepCase s label output s') :
    contents s'.server = replay (contents s.server) (L.changeOf (label, output)).toList := by
  cases stepped with
  | act handled => rfl
  | serve inFlight waiting => exact L.contents_serve _ _ _
  | deliver inFlight answered resumed => rfl

/-- **The store is a replay of its log.** -/
theorem contents_run (L : Log P contents) (run : P.Run allowed s₀ trace s) :
    contents s.server = L.contentsAfter (contents s₀.server) trace := by
  refine run.invariant
    (I := fun trace s => contents s.server = L.contentsAfter (contents s₀.server) trace) rfl ?_
  intro trace s label output s' replayed _ stepped
  rw [contents_step (L := L) stepped, replayed, contentsAfter_cons]

end Log

/-! ## Replies -/

section

variable {trace : Trace Request Continuation Action Input Fate Event}
  {s₀ s : State Client Server Request Reply Continuation}
  {allowed : Trace Request Continuation Action Input Fate Event →
    State Client Server Request Reply Continuation → Label Action Input Fate → Prop}

/-- The request of a task has been issued for its client. -/
def Issued (trace : Trace Request Continuation Action Input Fate Event)
    (task : Task Request Reply Continuation) : Prop :=
  ∃ entry ∈ trace, entry.2.client = task.client ∧
    (task.request, task.continuation) ∈ entry.2.requests

theorem Issued.cons {task : Task Request Reply Continuation} (issued : Issued trace task)
    (entry : Label Action Input Fate × Output Request Continuation Event) :
    Issued (entry :: trace) task := by
  obtain ⟨earlier, member, rest⟩ := issued
  exact ⟨earlier, List.mem_cons_of_mem _ member, rest⟩

/-- The reply was given in a state of the run, after the request was issued. -/
def AnsweredIn (P : Program Client Server Request Reply Continuation Action Input Fate Event)
    (allowed : Trace Request Continuation Action Input Fate Event →
      State Client Server Request Reply Continuation → Label Action Input Fate → Prop)
    (s₀ : State Client Server Request Reply Continuation)
    (trace : Trace Request Continuation Action Input Fate Event)
    (task : Task Request Reply Continuation) (reply : Reply) : Prop :=
  ∃ later moment between fate, trace = later ++ moment ∧ P.Run allowed s₀ moment between ∧
    Issued moment task ∧ reply = P.answer between fate task

theorem AnsweredIn.cons {task : Task Request Reply Continuation} {reply : Reply}
    (answered : AnsweredIn P allowed s₀ trace task reply)
    (entry : Label Action Input Fate × Output Request Continuation Event) :
    AnsweredIn P allowed s₀ (entry :: trace) task reply := by
  obtain ⟨later, moment, between, fate, rfl, rest⟩ := answered
  exact ⟨entry :: later, moment, between, fate, rfl, rest⟩

/-- The requests in flight were issued, and the replies were given in states of the run. -/
structure Dated (P : Program Client Server Request Reply Continuation Action Input Fate Event)
    (allowed : Trace Request Continuation Action Input Fate Event →
      State Client Server Request Reply Continuation → Label Action Input Fate → Prop)
    (s₀ : State Client Server Request Reply Continuation)
    (trace : Trace Request Continuation Action Input Fate Event)
    (tasks : List (Task Request Reply Continuation)) : Prop where
  issued : ∀ task ∈ tasks, Issued trace task
  answered : ∀ task ∈ tasks, ∀ reply, task.reply = some reply →
    AnsweredIn P allowed s₀ trace task reply

/-- A handler keeps the replies dated. -/
theorem Dated.commit {tasks remaining : List (Task Request Reply Continuation)}
    (dated : Dated P allowed s₀ trace tasks) (fewer : remaining ⊆ tasks)
    (entry : Label Action Input Fate × Output Request Continuation Event) :
    Dated P allowed s₀ (entry :: trace)
      (remaining ++ entry.2.requests.map fun r => ⟨entry.2.client, r.1, r.2, none⟩) where
  issued := by
    intro task member
    rcases List.mem_append.mp member with old | new
    · exact (dated.issued task (fewer old)).cons entry
    · obtain ⟨request, requested, rfl⟩ := List.mem_map.mp new
      exact ⟨entry, List.mem_cons_self, rfl, requested⟩
  answered := by
    intro task member reply replied
    rcases List.mem_append.mp member with old | new
    · exact (dated.answered task (fewer old) reply replied).cons entry
    · obtain ⟨request, requested, rfl⟩ := List.mem_map.mp new
      cases replied

/-- A reply is dated when it is given. -/
theorem Dated.serve (dated : Dated P allowed s₀ trace s.tasks) (before : P.Run allowed s₀ trace s)
    {index : Nat} {task : Task Request Reply Continuation}
    (inFlight : s.tasks[index]? = some task) (fate : Fate)
    (entry : Label Action Input Fate × Output Request Continuation Event) :
    Dated P allowed s₀ (entry :: trace)
      (s.tasks.set index { task with reply := some (P.answer s fate task) }) where
  issued := by
    intro other member
    rcases List.mem_or_eq_of_mem_set member with old | rfl
    · exact (dated.issued other old).cons entry
    · exact (dated.issued task (List.mem_of_getElem? inFlight)).cons entry
  answered := by
    intro other member reply replied
    rcases List.mem_or_eq_of_mem_set member with old | rfl
    · exact (dated.answered other old reply replied).cons entry
    · obtain rfl := Option.some.inj replied
      have issued := dated.issued task (List.mem_of_getElem? inFlight)
      exact ⟨[entry], trace, s, fate, rfl, before, issued, rfl⟩

/-- The replies are dated in every run that starts with nothing in flight. -/
theorem dated_run (idle : s₀.tasks = []) (run : P.Run allowed s₀ trace s) :
    Dated P allowed s₀ trace s.tasks := by
  induction run with
  | start => exact ⟨by simp [idle], by simp [idle]⟩
  | @step trace s s' label output before permitted stepped dated =>
      cases Program.stepCase_of_step stepped with
      | act handled => exact dated.commit (List.Subset.refl _) (_, _)
      | serve inFlight waiting => exact dated.serve before inFlight _ _
      | deliver inFlight answered resumed => exact dated.commit List.eraseIdx_subset (_, _)

/-- **A reply is given in one state of the run**, after its request and before its arrival,
when the run starts with nothing in flight. -/
theorem answered_run (idle : s₀.tasks = []) (run : P.Run allowed s₀ trace s)
    {task : Task Request Reply Continuation} (inFlight : task ∈ s.tasks) {reply : Reply}
    (replied : task.reply = some reply) : AnsweredIn P allowed s₀ trace task reply :=
  (dated_run idle run).answered task inFlight reply replied

end

end RequestReply

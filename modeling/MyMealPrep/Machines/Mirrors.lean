import MyMealPrep.Machines.ServedLogs

/-!
# What a client expects of the store

A client that keeps a copy of its own values at the server changes the copy when it
issues a request, and the server follows later, in whatever order the requests
arrive. What the client expects (`Mirror.Expected`) is what the store will hold for it
once its requests are served: the values stored that no request in flight is going to
remove, and those that a request in flight is going to write.

While clients write new keys only and keep to their own values (`Mirror.Separate`), serving
a request changes nothing about what is expected (`expected_serve`), and issuing one
changes it as the request says. With nothing in flight, what is expected is what is
stored (`expected_idle`).
-/

set_option autoImplicit false

namespace RequestReply

variable {Client Server Request Reply Continuation Action Input Fate Event κ ν : Type}
  {P : Program Client Server Request Reply Continuation Action Input Fate Event}

/-! ## Requests not yet served -/

/-- A request of the client is in flight, and the server has not handled it. -/
def State.Unserved (s : State Client Server Request Reply Continuation) (client : Nat)
    (request : Request) : Prop :=
  ∃ task ∈ s.tasks, task.client = client ∧ task.request = request ∧ task.reply = none

section

variable {s s' : State Client Server Request Reply Continuation} {label : Label Action Input Fate}
  {output : Output Request Continuation Event} {client : Nat} {request : Request}

/-- A request not served after a step was not served before it, or is issued in it. -/
theorem unserved_of_step (stepped : P.StepCase s label output s')
    (unserved : s'.Unserved client request) :
    s.Unserved client request ∨
      output.client = client ∧ ∃ continuation, (request, continuation) ∈ output.requests := by
  obtain ⟨task, member, own, same, waiting⟩ := unserved
  cases stepped with
  | act handled =>
      rcases List.mem_append.mp member with old | new
      · exact .inl ⟨task, old, own, same, waiting⟩
      · obtain ⟨issued, requested, rfl⟩ := List.mem_map.mp new
        exact .inr ⟨own, issued.2, same ▸ requested⟩
  | serve inFlight waitingBefore =>
      rcases List.mem_or_eq_of_mem_set member with old | rfl
      · exact .inl ⟨task, old, own, same, waiting⟩
      · cases waiting
  | deliver inFlight answered resumed =>
      rcases List.mem_append.mp member with old | new
      · exact .inl ⟨task, List.eraseIdx_subset old, own, same, waiting⟩
      · obtain ⟨issued, requested, rfl⟩ := List.mem_map.mp new
        exact .inr ⟨own, issued.2, same ▸ requested⟩

/-- A request not served stays so, unless the step serves it. -/
theorem unserved_step (stepped : P.StepCase s label output s')
    (unserved : s.Unserved client request) :
    s'.Unserved client request ∨
      output.client = client ∧ ∃ continuation, output.served = some (request, continuation) := by
  obtain ⟨task, member, own, same, waiting⟩ := unserved
  cases stepped with
  | act handled => exact .inl ⟨task, List.mem_append_left _ member, own, same, waiting⟩
  | @serve index fate served inFlight waitingBefore =>
      obtain ⟨position, found⟩ := List.mem_iff_getElem?.mp member
      by_cases here : index = position
      · subst here
        obtain rfl := Option.some.inj (inFlight.symm.trans found)
        exact .inr ⟨own, served.continuation, congrArg (fun request => some (request, _)) same⟩
      · refine .inl ⟨task, List.mem_of_getElem? (i := position) ?_, own, same, waiting⟩
        rw [List.getElem?_set_ne here]
        exact found
  | @deliver index input delivered reply effect inFlight answered resumed =>
      obtain ⟨position, found⟩ := List.mem_iff_getElem?.mp member
      have elsewhere : position ≠ index := by
        rintro rfl
        obtain rfl := Option.some.inj (inFlight.symm.trans found)
        rw [answered] at waiting
        cases waiting
      have kept := List.mem_eraseIdx_iff_getElem?.mpr ⟨position, elsewhere, found⟩
      exact .inl ⟨task, List.mem_append_left _ kept, own, same, waiting⟩

/-- A request in flight stays in flight, until its reply is delivered. -/
theorem exists_task_of_stepCase (stepped : P.StepCase s label output s')
    {task : Task Request Reply Continuation} (member : task ∈ s.tasks) :
    (∃ later ∈ s'.tasks, later.client = task.client ∧ later.request = task.request) ∨
      ∃ index input, label = .deliver index input ∧ s.tasks[index]? = some task := by
  cases stepped with
  | act handled => exact .inl ⟨task, List.mem_append_left _ member, rfl, rfl⟩
  | @serve index fate served inFlight waiting =>
      obtain ⟨position, found⟩ := List.mem_iff_getElem?.mp member
      have inRange := (List.getElem?_eq_some_iff.mp inFlight).1
      by_cases here : index = position
      · subst here
        obtain rfl := Option.some.inj (inFlight.symm.trans found)
        exact .inl ⟨_, List.mem_of_getElem? (List.getElem?_set_self inRange), rfl, rfl⟩
      · refine .inl ⟨task, List.mem_of_getElem? (i := position) ?_, rfl, rfl⟩
        rw [List.getElem?_set_ne here]
        exact found
  | @deliver index input delivered reply effect inFlight answered resumed =>
      obtain ⟨position, found⟩ := List.mem_iff_getElem?.mp member
      by_cases here : position = index
      · subst here
        exact .inr ⟨position, input, rfl, found⟩
      · have kept := List.mem_eraseIdx_iff_getElem?.mpr ⟨position, here, found⟩
        exact .inl ⟨task, List.mem_append_left _ kept, rfl, rfl⟩

theorem unserved_issued (stepped : P.StepCase s label output s') {continuation : Continuation}
    (requested : (request, continuation) ∈ output.requests) :
    s'.Unserved output.client request := by
  cases stepped with
  | act handled =>
      exact ⟨_, List.mem_append_right _ (List.mem_map_of_mem requested), rfl, rfl, rfl⟩
  | serve inFlight waiting => cases requested
  | deliver inFlight answered resumed =>
      exact ⟨_, List.mem_append_right _ (List.mem_map_of_mem requested), rfl, rfl, rfl⟩

end

/-! ## Mirrors -/

variable [DecidableEq κ]

/-- What each request changes when it succeeds, and which values are a client's own. -/
structure Mirror (K : Store P κ ν) where
  log : Log P K.contents
  change : Request → Option (κ × Option ν)
  own : ν → Prop
  log_change : ∀ fate request, log.change fate request = none ∨
    log.change fate request = change request

namespace Mirror

variable {K : Store P κ ν} (M : Mirror K)

/-- A request in flight of the client is going to remove the key. -/
def Removing (s : State Client Server Request Reply Continuation) (client : Nat) (key : κ) : Prop :=
  ∃ request, s.Unserved client request ∧ M.change request = some (key, none)

/-- A request in flight of the client is going to write the value under the key. -/
def Writing (s : State Client Server Request Reply Continuation) (client : Nat) (key : κ)
    (value : ν) : Prop :=
  ∃ request, s.Unserved client request ∧ M.change request = some (key, some value)

/-- What the store will hold of the client's own once its requests are served. -/
def Expected (s : State Client Server Request Reply Continuation) (client : Nat) (key : κ)
    (value : ν) : Prop :=
  (K.contents s.server key = some value ∧ M.own value ∧ ¬ M.Removing s client key) ∨
    M.Writing s client key value

/-- The client writes own values under new keys, and the others neither write nor remove its
own. -/
structure Separate (s : State Client Server Request Reply Continuation) (client : Nat) : Prop where
  written : ∀ key value, M.Writing s client key value →
    M.own value ∧ K.contents s.server key = none ∧ ¬ M.Removing s client key
  foreignWritten : ∀ other, other ≠ client → ∀ key value, M.Writing s other key value →
    ¬ M.own value ∧ K.contents s.server key = none
  foreignRemoved : ∀ other, other ≠ client → ∀ key, M.Removing s other key →
    ∀ value, K.contents s.server key = some value → ¬ M.own value

section

variable {M} {s s' : State Client Server Request Reply Continuation}
  {label : Label Action Input Fate} {output : Output Request Continuation Event} {client : Nat}
  {request : Request} {continuation : Continuation} {key : κ} {value : ν}

/-- What is stored after a request is served: its change decides about its key. -/
theorem contents_served (stepped : P.StepCase s label output s')
    (served : output.served = some (request, continuation)) :
    K.contents s'.server = K.contents s.server ∨
      K.contents s'.server = replay (K.contents s.server) (M.change request).toList := by
  cases stepped with
  | act handled => cases served
  | @serve index fate task inFlight waiting =>
      obtain ⟨rfl, rfl⟩ := Prod.mk.inj (Option.some.inj served)
      have contents := M.log.contents_serve fate s.server task.request
      rcases M.log_change fate task.request with failed | succeeded
      · exact .inl (by rw [contents, failed]; rfl)
      · exact .inr (by rw [contents, succeeded])
  | deliver inFlight answered resumed => cases served

theorem unserved_of_served (stepped : P.StepCase s label output s')
    (served : output.served = some (request, continuation)) :
    s.Unserved output.client request := by
  cases stepped with
  | act handled => cases served
  | serve inFlight waiting =>
      obtain ⟨rfl, rfl⟩ := Prod.mk.inj (Option.some.inj served)
      exact ⟨_, List.mem_of_getElem? inFlight, rfl, rfl, waiting⟩
  | deliver inFlight answered resumed => cases served

theorem requests_of_served (stepped : P.StepCase s label output s')
    (served : output.served = some (request, continuation)) : output.requests = [] := by
  cases stepped with
  | act handled => cases served
  | serve inFlight waiting => rfl
  | deliver inFlight answered resumed => cases served

/-! ## Serving -/

theorem unserved_before_serve (stepped : P.StepCase s label output s')
    (served : output.served = some (request, continuation)) {other : Request}
    (unserved : s'.Unserved client other) : s.Unserved client other := by
  rcases unserved_of_step stepped unserved with before | ⟨-, _, requested⟩
  · exact before
  · rw [requests_of_served stepped served] at requested
    cases requested

/-- Serving a request of another client changes nothing about what is expected. -/
theorem expected_serve_other (separate : M.Separate s client)
    (stepped : P.StepCase s label output s')
    (served : output.served = some (request, continuation)) (foreign : output.client ≠ client) :
    M.Expected s' client key value ↔ M.Expected s client key value := by
  have unserved : ∀ other, s'.Unserved client other ↔ s.Unserved client other := by
    intro other
    refine ⟨unserved_before_serve stepped served, fun before => ?_⟩
    exact (unserved_step stepped before).resolve_right fun wasServed => foreign wasServed.1
  have inFlight := unserved_of_served stepped served
  have stored : ∀ key value, K.contents s'.server key = some value ∧ M.own value ↔
      K.contents s.server key = some value ∧ M.own value := by
    intro key value
    rcases contents_served (M := M) stepped served with same | changed
    · rw [same]
    cases change : M.change request with
    | none => rw [changed, change, Option.toList_none, replay_nil]
    | some changed' =>
        obtain ⟨changedKey, result⟩ := changed'
        rw [changed, change, Option.toList_some, replay_singleton]
        by_cases here : changedKey = key
        · subst here
          rw [if_pos rfl]
          cases result with
          | none =>
              have notOwn :=
                separate.foreignRemoved _ foreign changedKey ⟨request, inFlight, change⟩
              exact ⟨fun ⟨gone, _⟩ => (by cases gone), fun ⟨found, own⟩ =>
                absurd own (notOwn value found)⟩
          | some written =>
              obtain ⟨notOwn, absent⟩ :=
                separate.foreignWritten _ foreign changedKey written ⟨request, inFlight, change⟩
              constructor
              · rintro ⟨⟨⟩, own⟩
                exact absurd own notOwn
              · rintro ⟨found, -⟩
                rw [absent] at found
                cases found
        · rw [if_neg here]
  have sameStored := stored key value
  simp only [Expected, Removing, Writing, unserved]
  refine or_congr_left ?_
  rw [← and_assoc, ← and_assoc, sameStored]

/-- What the client has in flight when one of its requests is served: that request, and what is
in flight afterwards. -/
theorem exists_unserved_served (stepped : P.StepCase s label output s')
    (served : output.served = some (request, continuation)) (own : output.client = client)
    (change : κ × Option ν) :
    (∃ other, s.Unserved client other ∧ M.change other = some change) ↔
      (∃ other, s'.Unserved client other ∧ M.change other = some change) ∨
        M.change request = some change := by
  constructor
  · rintro ⟨other, unserved, changes⟩
    rcases unserved_step stepped unserved with still | ⟨-, _, same⟩
    · exact .inl ⟨other, still, changes⟩
    · obtain ⟨rfl, -⟩ := Prod.mk.inj (Option.some.inj (same.symm.trans served))
      exact .inr changes
  · rintro (⟨other, still, changes⟩ | changes)
    · exact ⟨other, unserved_before_serve stepped served still, changes⟩
    · exact ⟨request, own ▸ unserved_of_served stepped served, changes⟩

/-- Serving a request of the client that succeeds changes nothing about what is expected. -/
theorem expected_serve_own (separate : M.Separate s client)
    (stepped : P.StepCase s label output s')
    (served : output.served = some (request, continuation)) (own : output.client = client)
    (succeeds : K.contents s'.server =
      replay (K.contents s.server) (M.change request).toList) :
    M.Expected s' client key value ↔ M.Expected s client key value := by
  have inFlight := exists_unserved_served (M := M) stepped served own
  have removing : M.Removing s client key ↔
      M.Removing s' client key ∨ M.change request = some (key, none) := inFlight _
  have writing : M.Writing s client key value ↔
      M.Writing s' client key value ∨ M.change request = some (key, some value) := inFlight _
  have stored := congrFun succeeds key
  by_cases concerned : ∃ result, M.change request = some (key, result)
  · obtain ⟨result, change⟩ := concerned
    rw [change, Option.toList_some, replay_singleton, if_pos rfl] at stored
    cases result with
    | none => simp [Expected, removing, writing, stored, change]
    | some written =>
        have unserved := own ▸ unserved_of_served stepped served
        obtain ⟨ownValue, absent, notRemoved⟩ :=
          separate.written key written ⟨request, unserved, change⟩
        have notRemovedAfter : ¬ M.Removing s' client key :=
          fun removes => notRemoved (removing.mpr (.inl removes))
        simp only [Expected, writing, stored, absent, change, notRemovedAfter]
        constructor
        · rintro (⟨⟨⟩, -, -⟩ | writes)
          · exact .inr (.inr rfl)
          · exact .inr (.inl writes)
        · rintro (⟨⟨⟩, -, -⟩ | writes | ⟨⟨⟩⟩)
          · exact .inr writes
          · exact .inl ⟨rfl, ownValue, not_false⟩
  · simp only [not_exists] at concerned
    have same : K.contents s'.server key = K.contents s.server key := by
      rw [stored]
      cases change : M.change request with
      | none => rfl
      | some changed =>
          rw [Option.toList_some, replay_singleton, if_neg]
          rintro rfl
          exact concerned _ change
    simp [Expected, removing, writing, same, concerned]

/-! ## Issuing -/

theorem unserved_iff (stepped : P.StepCase s label output s') (idle : output.served = none)
    (request : Request) :
    s'.Unserved client request ↔ s.Unserved client request ∨
      output.client = client ∧ ∃ continuation, (request, continuation) ∈ output.requests := by
  refine ⟨unserved_of_step stepped, ?_⟩
  rintro (before | ⟨rfl, continuation, requested⟩)
  · refine (unserved_step stepped before).resolve_right ?_
    rintro ⟨-, _, served⟩
    rw [idle] at served
    cases served
  · exact unserved_issued stepped requested

theorem server_eq (stepped : P.StepCase s label output s') (idle : output.served = none) :
    s'.server = s.server := by
  cases stepped with
  | act handled => rfl
  | serve inFlight waiting => cases idle
  | deliver inFlight answered resumed => rfl

theorem expected_quiet (stepped : P.StepCase s label output s') (idle : output.served = none)
    (quiet : output.client = client → ∀ issued ∈ output.requests, M.change issued.1 = none) :
    M.Expected s' client key value ↔ M.Expected s client key value := by
  have same : ∀ change : κ × Option ν,
      (∃ request, s'.Unserved client request ∧ M.change request = some change) ↔
        ∃ request, s.Unserved client request ∧ M.change request = some change := by
    intro change
    refine exists_congr fun request => ?_
    rw [unserved_iff stepped idle]
    refine ⟨?_, fun ⟨before, changes⟩ => ⟨.inl before, changes⟩⟩
    rintro ⟨before | ⟨issuer, continuation, requested⟩, changes⟩
    · exact ⟨before, changes⟩
    · rw [quiet issuer _ requested] at changes
      cases changes
  simp only [Expected, Removing, Writing, same, server_eq stepped idle]

theorem expected_write (stepped : P.StepCase s label output s') (idle : output.served = none)
    (issuer : output.client = client) (requests : output.requests = [(request, continuation)])
    {written : κ} {result : ν} (changes : M.change request = some (written, some result)) :
    M.Expected s' client key value ↔
      M.Expected s client key value ∨ key = written ∧ value = result := by
  have unserved : ∀ other,
      s'.Unserved client other ↔ s.Unserved client other ∨ other = request := by
    intro other
    simp [unserved_iff stepped idle, issuer, requests]
  have removing : M.Removing s' client key ↔ M.Removing s client key := by
    refine exists_congr fun other => ?_
    rw [unserved, or_and_right, or_iff_left]
    rintro ⟨rfl, removes⟩
    rw [changes] at removes
    cases removes
  have writing : M.Writing s' client key value ↔
      M.Writing s client key value ∨ key = written ∧ value = result := by
    simp only [Writing, unserved, or_and_right, exists_or, exists_eq_left, changes,
      Option.some.injEq, Prod.mk.injEq]
    exact or_congr_right (and_congr eq_comm eq_comm)
  rw [Expected, Expected, removing, writing, server_eq stepped idle, or_assoc]

theorem expected_remove (stepped : P.StepCase s label output s') (idle : output.served = none)
    (issuer : output.client = client) (requests : output.requests = [(request, continuation)])
    {removed : κ} (changes : M.change request = some (removed, none))
    (unwritten : ∀ value, ¬ M.Writing s client removed value) :
    M.Expected s' client key value ↔ M.Expected s client key value ∧ key ≠ removed := by
  have unserved : ∀ other,
      s'.Unserved client other ↔ s.Unserved client other ∨ other = request := by
    intro other
    simp [unserved_iff stepped idle, issuer, requests]
  have removing : M.Removing s' client key ↔ M.Removing s client key ∨ key = removed := by
    simp only [Removing, unserved, or_and_right, exists_or, exists_eq_left, changes,
      Option.some.injEq, Prod.mk.injEq, and_true]
    exact or_congr_right eq_comm
  have writing : M.Writing s' client key value ↔ M.Writing s client key value := by
    refine exists_congr fun other => ?_
    rw [unserved, or_and_right, or_iff_left]
    rintro ⟨rfl, writes⟩
    rw [changes] at writes
    cases writes
  rw [Expected, Expected, removing, writing, server_eq stepped idle]
  constructor
  · rintro (⟨stored, own, notRemoved⟩ | writes)
    · exact ⟨.inl ⟨stored, own, fun before => notRemoved (.inl before)⟩,
        fun same => notRemoved (.inr same)⟩
    · refine ⟨.inr writes, ?_⟩
      rintro rfl
      exact unwritten value writes
  · rintro ⟨⟨stored, own, notRemoved⟩ | writes, other⟩
    · exact .inl ⟨stored, own, fun removing => removing.elim notRemoved other⟩
    · exact .inr writes

/-- **With nothing of the client in flight, what is expected is what is stored.** -/
theorem expected_idle (idle : ∀ request, s.Unserved client request → M.change request = none) :
    M.Expected s client key value ↔ K.contents s.server key = some value ∧ M.own value := by
  have nothing : ∀ change : κ × Option ν,
      ¬ ∃ request, s.Unserved client request ∧ M.change request = some change := by
    rintro change ⟨request, unserved, changes⟩
    rw [idle request unserved] at changes
    cases changes
  rw [Expected, Removing, Writing]
  simp [nothing]

end

end Mirror

end RequestReply

import Mathlib.Data.List.Pairwise
import MyMealPrep.Machines.FreshKeys

/-!
# One value for each key

Where every key is fresh when its write is issued, a key has one value: the value stored
under it, the one on its way to the server and the ones listed by replies in flight are
the same (`Single`). A step lets no value occur that did not occur before and that it
does not write (`occurs_of_step`). So the value of a known key never becomes another one
(`only_step`), and what a client remembers of it stays true of the store.
-/

set_option autoImplicit false

namespace RequestReply.Store

variable {Client Server Request Reply Continuation Action Input Fate Event κ ν : Type}
  {P : Program Client Server Request Reply Continuation Action Input Fate Event}
  (K : Store P κ ν)

/-- The value is stored under the key, on its way to the server or listed by a reply. -/
def Occurs (s : State Client Server Request Reply Continuation) (key : κ) (value : ν) : Prop :=
  K.contents s.server key = some value ∨
  (∃ task ∈ s.tasks, task.reply = none ∧ K.writes task.request = some (key, value)) ∨
  ∃ task ∈ s.tasks, ∃ reply, task.reply = some reply ∧ (key, value) ∈ K.lists reply

/-- No two values occur under one key. -/
def Single (s : State Client Server Request Reply Continuation) : Prop :=
  ∀ key value other, K.Occurs s key value → K.Occurs s key other → value = other

variable {K} {old : κ → Prop} {good : κ → ν → Prop}
  {trace : Trace Request Continuation Action Input Fate Event}
  {s s' : State Client Server Request Reply Continuation} {label : Label Action Input Fate}
  {output : Output Request Continuation Event} {key : κ} {value : ν}

/-- A value in flight after requests are issued was in flight before, or is issued. -/
theorem occurs_of_commit {client : Nat} {tasks : List (Task Request Reply Continuation)}
    {effect : Effect Client Request Continuation Event} (remaining : tasks ⊆ s.tasks)
    (occurs : K.Occurs (s.commit client tasks effect) key value) :
    K.Occurs s key value ∨
      ∃ issued ∈ effect.requests, K.writes issued.1 = some (key, value) := by
  rcases occurs with stored | ⟨task, member, waiting, written⟩ |
    ⟨task, member, reply, replied, listed⟩
  · exact .inl (.inl stored)
  · rcases List.mem_append.mp member with before | new
    · exact .inl (.inr (.inl ⟨task, remaining before, waiting, written⟩))
    · obtain ⟨issued, requested, rfl⟩ := List.mem_map.mp new
      exact .inr ⟨issued, requested, written⟩
  · rcases List.mem_append.mp member with before | new
    · exact .inl (.inr (.inr ⟨task, remaining before, reply, replied, listed⟩))
    · obtain ⟨issued, requested, rfl⟩ := List.mem_map.mp new
      cases replied

/-- **What occurs after a step occurred before it, or is issued in it.** -/
theorem occurs_of_step (stepped : P.StepCase s label output s')
    (occurs : K.Occurs s' key value) :
    K.Occurs s key value ∨
      ∃ issued ∈ output.requests, K.writes issued.1 = some (key, value) := by
  cases stepped with
  | act handled => exact occurs_of_commit (List.Subset.refl _) occurs
  | @serve index fate served inFlight waiting =>
      have inTasks := List.mem_of_getElem? inFlight
      refine .inl ?_
      rcases occurs with stored | ⟨task, member, waits, written⟩ |
        ⟨task, member, reply, replied, listed⟩
      · rcases K.contents_serve stored with before | written
        · exact .inl before
        · exact .inr (.inl ⟨served, inTasks, waiting, written⟩)
      · rcases List.mem_or_eq_of_mem_set member with before | rfl
        · exact .inr (.inl ⟨task, before, waits, written⟩)
        · cases waits
      · rcases List.mem_or_eq_of_mem_set member with before | rfl
        · exact .inr (.inr ⟨task, before, reply, replied, listed⟩)
        · obtain rfl := Option.some.inj replied
          rcases K.lists_answer listed with stored | ⟨request, own, written⟩
          · exact .inl stored
          · obtain ⟨writer, writing, -, unserved, rfl⟩ := State.mem_unanswered.mp own
            exact .inr (.inl ⟨writer, writing, unserved, written⟩)
  | deliver inFlight answered resumed => exact occurs_of_commit List.eraseIdx_subset occurs

theorem Kept.known_of_occurs (kept : K.Kept old good trace s) (occurs : K.Occurs s key value) :
    K.Known old trace key := by
  rcases occurs with stored | ⟨task, member, waiting, written⟩ |
    ⟨task, member, reply, replied, listed⟩
  · exact (kept.stored key value stored).2.known
  · exact kept.known key (mem_pending_of_writes member waiting written)
  · exact (kept.listed task member reply replied key value listed).2

theorem mem_issuedKeys {requests : List (Request × Continuation)} {issued : Request × Continuation}
    (requested : issued ∈ requests) (written : K.writes issued.1 = some (key, value)) :
    key ∈ K.issuedKeys requests :=
  List.mem_filterMap.mpr ⟨issued, requested, congrArg (Option.map Prod.fst) written⟩

/-- Requests issued at once under one key write one value. -/
theorem FreshlyIssued.single {requests : List (Request × Continuation)} {other : ν}
    (fresh : K.FreshlyIssued old trace requests) {first second : Request × Continuation}
    (firstIssued : first ∈ requests) (secondIssued : second ∈ requests)
    (firstWrites : K.writes first.1 = some (key, value))
    (secondWrites : K.writes second.1 = some (key, other)) : value = other := by
  have same : first = second := by
    by_contra different
    have symmetric : Std.Symm fun first second : Request × Continuation =>
        ∀ one, K.creates first.1 = some one → ∀ two, K.creates second.1 = some two → one ≠ two :=
      ⟨fun _ _ apart one oneFound two twoFound => (apart two twoFound one oneFound).symm⟩
    refine (List.pairwise_filterMap.mp fresh.nodup).forall firstIssued secondIssued different
      key ?_ key ?_ rfl
    · exact congrArg (Option.map Prod.fst) firstWrites
    · exact congrArg (Option.map Prod.fst) secondWrites
  rw [same, secondWrites] at firstWrites
  exact (Prod.mk.inj (Option.some.inj firstWrites)).2.symm

/-- **A step whose keys are fresh keeps one value for each key.** -/
theorem Single.step (single : K.Single s) (kept : K.Kept old good trace s)
    (fresh : K.FreshlyIssued old trace output.requests)
    (stepped : P.StepCase s label output s') : K.Single s' := by
  have apart : ∀ {key value}, K.Occurs s key value → ∀ issued ∈ output.requests, ∀ other,
      K.writes issued.1 ≠ some (key, other) := fun occurs issued requested other written =>
    fresh.unknown _ (mem_issuedKeys requested written) (kept.known_of_occurs occurs)
  intro key value other occurs otherOccurs
  rcases occurs_of_step stepped occurs with before | ⟨issued, requested, written⟩
  · rcases occurs_of_step stepped otherOccurs with otherBefore | ⟨issued, requested, written⟩
    · exact single key value other before otherBefore
    · exact absurd written (apart before issued requested other)
  · rcases occurs_of_step stepped otherOccurs with
      otherBefore | ⟨otherIssued, otherRequested, otherWritten⟩
    · exact absurd written (apart otherBefore issued requested value)
    · exact fresh.single requested otherRequested written otherWritten

/-- **What holds of every value of a known key holds after a step.** -/
theorem only_step {Q : ν → Prop} (only : ∀ value, K.Occurs s key value → Q value)
    (known : K.Known old trace key) (fresh : K.FreshlyIssued old trace output.requests)
    (stepped : P.StepCase s label output s') : ∀ value, K.Occurs s' key value → Q value := by
  intro value occurs
  rcases occurs_of_step stepped occurs with before | ⟨issued, requested, written⟩
  · exact only value before
  · exact absurd known (fresh.unknown key (mem_issuedKeys requested written))

theorem single_start (idle : s.tasks = []) : K.Single s := by
  have stored : ∀ key value, K.Occurs s key value → K.contents s.server key = some value := by
    rintro key value (stored | ⟨task, member, -⟩ | ⟨task, member, -⟩)
    · exact stored
    · rw [idle] at member
      cases member
    · rw [idle] at member
      cases member
  intro key value other occurs otherOccurs
  exact Option.some.inj ((stored key value occurs).symm.trans (stored key other otherOccurs))

end RequestReply.Store

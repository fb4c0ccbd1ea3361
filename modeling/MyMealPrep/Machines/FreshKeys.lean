import Mathlib.Data.List.Nodup
import MyMealPrep.Machines.RequestReply

/-!
# Stores whose keys are created once

Some servers are keyed stores: a request writes a value under a key or removes a
key, and a reply lists entries. When every key is fresh at the time its write is
issued, a key is written at most once. So a key that the server has seen, and that
no request in flight is going to write, never comes back after it has been removed.

`Store` says which requests write and remove, and what a reply lists: values that are
stored, or that the client itself is about to write. `Kept` is the invariant of the
runs whose keys are fresh, for values that are good under their keys: what is stored,
on its way to the server or listed by a reply is good and has a known key, and what is
stored is settled. A `Settled` key stays settled (`Settled.step`), and once it has been
removed it stays absent (`removed_run`). What is listed is settled too where replies
list stored values only (`ListingsSettled`).
-/

set_option autoImplicit false

namespace RequestReply

variable {Client Server Request Reply Continuation Action Input Fate Event κ ν : Type}

/-- The server of a program as a keyed store. -/
structure Store (P : Program Client Server Request Reply Continuation Action Input Fate Event)
    (κ ν : Type) where
  contents : Server → κ → Option ν
  writes : Request → Option (κ × ν)
  removes : Fate → Request → Option κ
  lists : Reply → List (κ × ν)
  contents_serve : ∀ {fate : Fate} {server : Server} {request : Request} {key : κ} {value : ν},
    contents (P.serve fate server request).1 key = some value →
      contents server key = some value ∨ writes request = some (key, value)
  removes_serve : ∀ {fate : Fate} {server : Server} {request : Request} {key : κ},
    removes fate request = some key → contents (P.serve fate server request).1 key = none
  lists_answer : ∀ {s : State Client Server Request Reply Continuation} {fate : Fate}
    {task : Task Request Reply Continuation} {key : κ} {value : ν},
    (key, value) ∈ lists (P.answer s fate task) → contents s.server key = some value ∨
      ∃ request ∈ s.unanswered task.client, writes request = some (key, value)

namespace Store

variable {P : Program Client Server Request Reply Continuation Action Input Fate Event}
  (K : Store P κ ν) (old : κ → Prop)

/-! ## Keys in flight and keys known -/

/-- The key that a request writes. -/
def creates (request : Request) : Option κ :=
  (K.writes request).map Prod.fst

/-- The key that a request in flight is going to write. -/
def pendingKey (task : Task Request Reply Continuation) : Option κ :=
  match task.reply with
  | none => K.creates task.request
  | some _ => none

/-- The keys that the requests in flight are going to write. -/
def pending (tasks : List (Task Request Reply Continuation)) : List κ :=
  tasks.filterMap K.pendingKey

/-- The keys that the requests issued are going to write. -/
def issuedKeys (requests : List (Request × Continuation)) : List κ :=
  requests.filterMap fun issued => K.creates issued.1

/-- A key is known when it is an old one or a request to write it has been issued. -/
def Known (trace : Trace Request Continuation Action Input Fate Event) (key : κ) : Prop :=
  old key ∨ ∃ entry ∈ trace, key ∈ K.issuedKeys entry.2.requests

/-- The keys of the requests issued are new, each of them. -/
structure FreshlyIssued (trace : Trace Request Continuation Action Input Fate Event)
    (requests : List (Request × Continuation)) : Prop where
  nodup : (K.issuedKeys requests).Nodup
  unknown : ∀ key ∈ K.issuedKeys requests, ¬ K.Known old trace key

/-- A key that is known and that no request in flight is going to write. -/
structure Settled (trace : Trace Request Continuation Action Input Fate Event)
    (s : State Client Server Request Reply Continuation) (key : κ) : Prop where
  known : K.Known old trace key
  notPending : key ∉ K.pending s.tasks

/-- The step serves the removal of the key. -/
def Removes (entry : Label Action Input Fate × Output Request Continuation Event) (key : κ) :
    Prop :=
  ∃ index fate request, entry.1 = .serve index fate ∧ entry.2.served = some request ∧
    K.removes fate request.1 = some key

/-- The removal of the key has been served. -/
def Removed (trace : Trace Request Continuation Action Input Fate Event) (key : κ) : Prop :=
  ∃ entry ∈ trace, K.Removes entry key

section

variable {K old} {trace : Trace Request Continuation Action Input Fate Event}
  {s s' : State Client Server Request Reply Continuation} {label : Label Action Input Fate}
  {output : Output Request Continuation Event} {key : κ}
  {tasks : List (Task Request Reply Continuation)} {task : Task Request Reply Continuation}
  {index : Nat}

theorem Known.step (known : K.Known old trace key)
    (entry : Label Action Input Fate × Output Request Continuation Event) :
    K.Known old (entry :: trace) key := by
  rcases known with initial | ⟨earlier, member, issued⟩
  · exact .inl initial
  · exact .inr ⟨earlier, List.mem_cons_of_mem _ member, issued⟩

/-- What becomes known in a step is issued in it. -/
theorem Known.of_cons (known : K.Known old ((label, output) :: trace) key) :
    K.Known old trace key ∨ key ∈ K.issuedKeys output.requests := by
  rcases known with initial | ⟨entry, member, issued⟩
  · exact .inl (.inl initial)
  · rcases List.mem_cons.mp member with rfl | earlier
    · exact .inr issued
    · exact .inl (.inr ⟨entry, earlier, issued⟩)

theorem known_of_issued (issued : key ∈ K.issuedKeys output.requests) :
    K.Known old ((label, output) :: trace) key :=
  .inr ⟨_, List.mem_cons_self, issued⟩

/-- The keys issued are new when only a request issued alone writes, and under a new key. -/
theorem FreshlyIssued.of_alone {requests : List (Request × Continuation)}
    (alone : ∀ issued ∈ requests, ∀ key value, K.writes issued.1 = some (key, value) →
      requests = [issued] ∧ ¬ K.Known old trace key) :
    K.FreshlyIssued old trace requests := by
  by_cases nothing : ∀ issued ∈ requests, K.writes issued.1 = none
  · have none : K.issuedKeys requests = [] :=
      List.filterMap_eq_nil_iff.mpr fun issued member => by rw [creates, nothing issued member]; rfl
    exact ⟨by rw [none]; exact List.nodup_nil, by simp [none]⟩
  · simp only [not_forall] at nothing
    obtain ⟨issued, requested, writes⟩ := nothing
    obtain ⟨⟨key, value⟩, written⟩ := Option.ne_none_iff_exists'.mp writes
    obtain ⟨rfl, unknown⟩ := alone issued requested key value written
    have single : K.issuedKeys [issued] = [key] := by simp [issuedKeys, creates, written]
    exact ⟨by rw [single]; exact List.nodup_singleton key, by simpa [single] using unknown⟩

theorem pending_append_issued (K : Store P κ ν) (client : Nat)
    (requests : List (Request × Continuation)) :
    K.pending (tasks ++ requests.map fun issued => ⟨client, issued.1, issued.2, none⟩) =
      K.pending tasks ++ K.issuedKeys requests := by
  rw [pending, List.filterMap_append, List.filterMap_map]
  rfl

theorem pending_eraseIdx_perm (K : Store P κ ν) (inFlight : tasks[index]? = some task)
    (answered : task.reply.isSome = true) :
    (K.pending (tasks.eraseIdx index)).Perm (K.pending tasks) := by
  obtain ⟨inRange, rfl⟩ := List.getElem?_eq_some_iff.mp inFlight
  have rearranged := (List.getElem_cons_eraseIdx_perm inRange).filterMap K.pendingKey
  obtain ⟨reply, answer⟩ := Option.isSome_iff_exists.mp answered
  rwa [List.filterMap_cons_none (by simp [pendingKey, answer])] at rearranged

theorem pending_set_perm (K : Store P κ ν) (reply : Reply) (inFlight : tasks[index]? = some task)
    (waiting : task.reply = none) :
    (K.pending tasks).Perm ((K.creates task.request).toList ++
      K.pending (tasks.set index { task with reply := some reply })) := by
  obtain ⟨inRange, rfl⟩ := List.getElem?_eq_some_iff.mp inFlight
  have before := (List.getElem_cons_eraseIdx_perm inRange).symm.filterMap K.pendingKey
  have after := (List.set_perm_cons_eraseIdx inRange
    { tasks[index] with reply := some reply }).filterMap K.pendingKey
  rw [List.filterMap_cons_none (by simp [pendingKey])] at after
  refine before.trans ?_
  have first : K.pendingKey tasks[index] = K.creates tasks[index].request := by
    simp [pendingKey, waiting]
  cases created : K.creates tasks[index].request with
  | none =>
      rw [List.filterMap_cons_none (by rw [first, created])]
      exact after.symm
  | some key =>
      rw [List.filterMap_cons_some (by rw [first, created])]
      exact (after.cons key).symm

/-! ## Settled keys -/

/-- A step puts no other keys in flight than those of the requests it issues. -/
theorem mem_pending_step (stepped : P.StepCase s label output s')
    (inFlight : key ∈ K.pending s'.tasks) :
    key ∈ K.pending s.tasks ∨ key ∈ K.issuedKeys output.requests := by
  cases stepped with
  | act handled =>
      rw [State.commit_tasks, pending_append_issued, List.mem_append] at inFlight
      exact inFlight
  | serve found waiting =>
      exact .inl ((K.pending_set_perm _ found waiting).mem_iff.mpr
        (List.mem_append_right _ inFlight))
  | deliver found answered resumed =>
      rw [State.commit_tasks, pending_append_issued, List.mem_append] at inFlight
      refine inFlight.imp_left fun old => ?_
      exact (K.pending_eraseIdx_perm found (by rw [answered]; rfl)).mem_iff.mp old

theorem Settled.step (settled : K.Settled old trace s key)
    (fresh : K.FreshlyIssued old trace output.requests)
    (stepped : P.StepCase s label output s') : K.Settled old ((label, output) :: trace) s' key where
  known := settled.known.step _
  notPending := by
    intro inFlight
    rcases mem_pending_step stepped inFlight with before | issued
    · exact settled.notPending before
    · exact fresh.unknown key issued settled.known

/-- A value stored after a step was stored before it, or its write was served. -/
theorem contents_step {value : ν} (stepped : P.StepCase s label output s')
    (stored : K.contents s'.server key = some value) :
    K.contents s.server key = some value ∨
    ∃ task ∈ s.tasks, task.reply = none ∧ K.writes task.request = some (key, value) ∧
      output.served = some (task.request, task.continuation) := by
  cases stepped with
  | act handled => exact .inl stored
  | @serve index fate task found waiting =>
      exact (K.contents_serve stored).imp_right fun written =>
        ⟨task, List.mem_of_getElem? found, waiting, written, rfl⟩
  | deliver found answered resumed => exact .inl stored

theorem mem_pending_of_writes {value : ν} (member : task ∈ tasks) (waiting : task.reply = none)
    (written : K.writes task.request = some (key, value)) : key ∈ K.pending tasks :=
  List.mem_filterMap.mpr ⟨task, member, by simp [pendingKey, waiting, creates, written]⟩

theorem absent_step (settled : K.Settled old trace s key) (absent : K.contents s.server key = none)
    (stepped : P.StepCase s label output s') : K.contents s'.server key = none := by
  cases stored : K.contents s'.server key with
  | none => rfl
  | some value =>
      rcases contents_step stepped stored with before | ⟨task, member, waiting, written, _⟩
      · rw [absent] at before
        cases before
      · exact absurd (mem_pending_of_writes member waiting written) settled.notPending

/-- A step that serves the removal of a key leaves it absent. -/
theorem Removes.absent (removes : K.Removes (label, output) key)
    (stepped : P.StepCase s label output s') : K.contents s'.server key = none := by
  obtain ⟨index, fate, request, rfl, served, removed⟩ := removes
  cases stepped with
  | serve found waiting =>
      obtain rfl := Option.some.inj served
      exact K.removes_serve removed

/-- **A settled key whose removal has been served is absent ever after**, when the
keys issued are new. -/
theorem removed_run {before later : Trace Request Continuation Action Input Fate Event}
    {allowed : Trace Request Continuation Action Input Fate Event →
      State Client Server Request Reply Continuation → Label Action Input Fate → Prop}
    (fresh : ∀ {trace s label output s'}, allowed trace s label →
      P.StepCase s label output s' → K.FreshlyIssued old trace output.requests)
    (settled : K.Settled old before s key)
    (run : P.Run (fun later => allowed (later ++ before)) s later s')
    (removed : K.Removed later key) : K.contents s'.server key = none := by
  have invariant : K.Settled old (later ++ before) s' key ∧
      (K.Removed later key → K.contents s'.server key = none) := by
    refine run.invariant (I := fun later s' => K.Settled old (later ++ before) s' key ∧
      (K.Removed later key → K.contents s'.server key = none)) ⟨settled, by simp [Removed]⟩ ?_
    intro trace s label output next ⟨settled, gone⟩ permitted stepped
    refine ⟨settled.step (fresh permitted stepped) stepped, ?_⟩
    rintro ⟨entry, member, removes⟩
    rcases List.mem_cons.mp member with rfl | earlier
    · exact removes.absent stepped
    · exact absent_step settled (gone ⟨entry, earlier, removes⟩) stepped
  exact invariant.2 removed

/-! ## The invariant -/

end

/-- The keys in flight are distinct and known, those listed are known and those stored are
settled, and every value stored, listed or on its way is good under its key. -/
structure Kept (good : κ → ν → Prop)
    (trace : Trace Request Continuation Action Input Fate Event)
    (s : State Client Server Request Reply Continuation) : Prop where
  nodup : (K.pending s.tasks).Nodup
  known : ∀ key ∈ K.pending s.tasks, K.Known old trace key
  stored : ∀ key value, K.contents s.server key = some value →
    good key value ∧ K.Settled old trace s key
  written : ∀ task ∈ s.tasks, ∀ key value, K.writes task.request = some (key, value) →
    good key value
  listed : ∀ task ∈ s.tasks, ∀ reply, task.reply = some reply → ∀ key value,
    (key, value) ∈ K.lists reply → good key value ∧ K.Known old trace key

/-- Replies list only what is stored. -/
def ListsStored : Prop :=
  ∀ (s : State Client Server Request Reply Continuation) (fate : Fate)
    (task : Task Request Reply Continuation) (key : κ) (value : ν),
    (key, value) ∈ K.lists (P.answer s fate task) → K.contents s.server key = some value

/-- The keys listed are settled. -/
def ListingsSettled (trace : Trace Request Continuation Action Input Fate Event)
    (s : State Client Server Request Reply Continuation) : Prop :=
  ∀ task ∈ s.tasks, ∀ reply, task.reply = some reply → ∀ key value,
    (key, value) ∈ K.lists reply → K.Settled old trace s key

section

variable {K old} {good : κ → ν → Prop}
  {trace : Trace Request Continuation Action Input Fate Event}
  {s s' : State Client Server Request Reply Continuation} {label : Label Action Input Fate}
  {output : Output Request Continuation Event} {key : κ}

theorem Kept.nodup_step (kept : K.Kept old good trace s)
    (fresh : K.FreshlyIssued old trace output.requests)
    (stepped : P.StepCase s label output s') : (K.pending s'.tasks).Nodup := by
  have issuedApart : ∀ {remaining : List κ}, remaining ⊆ K.pending s.tasks →
      List.Disjoint remaining (K.issuedKeys output.requests) := by
    intro remaining inFlight key before after
    exact fresh.unknown key after (kept.known key (inFlight before))
  cases stepped with
  | act handled =>
      rw [State.commit_tasks, pending_append_issued]
      exact kept.nodup.append fresh.nodup (issuedApart (List.Subset.refl _))
  | @serve index fate task found waiting =>
      have split := K.pending_set_perm (P.answer s fate task) found waiting
      exact (List.nodup_append.mp (split.nodup_iff.mp kept.nodup)).2.1
  | deliver found answered resumed =>
      have same := K.pending_eraseIdx_perm found (by rw [answered]; rfl)
      rw [State.commit_tasks, pending_append_issued]
      exact (same.nodup_iff.mpr kept.nodup).append fresh.nodup (issuedApart same.subset)

theorem Kept.known_step (kept : K.Kept old good trace s) (stepped : P.StepCase s label output s') :
    ∀ key ∈ K.pending s'.tasks, K.Known old ((label, output) :: trace) key := by
  intro key inFlight
  rcases mem_pending_step stepped inFlight with before | issued
  · exact (kept.known key before).step _
  · exact known_of_issued issued

theorem Kept.stored_step (kept : K.Kept old good trace s)
    (fresh : K.FreshlyIssued old trace output.requests)
    (stepped : P.StepCase s label output s') (key : κ) (value : ν)
    (stored : K.contents s'.server key = some value) :
    good key value ∧ K.Settled old ((label, output) :: trace) s' key := by
  rcases contents_step stepped stored with before | ⟨task, member, waiting, written, served⟩
  · exact (kept.stored key value before).imp_right fun settled => settled.step fresh stepped
  · refine ⟨kept.written task member key value written, ?_⟩
    refine ⟨(kept.known key (mem_pending_of_writes member waiting written)).step _, ?_⟩
    cases stepped with
    | act handled => cases served
    | @serve index fate task' found waiting' =>
        have same := (Prod.mk.inj (Option.some.inj served)).1
        have created : K.creates task'.request = some key := by rw [creates, same, written]; rfl
        have split := K.pending_set_perm (P.answer s fate task') found waiting'
        rw [created] at split
        exact (List.nodup_cons.mp (split.nodup_iff.mp kept.nodup)).1
    | deliver found answered resumed => cases served

theorem Kept.written_step (kept : K.Kept old good trace s)
    (issued : ∀ request ∈ output.requests, ∀ key value,
      K.writes request.1 = some (key, value) → good key value)
    (stepped : P.StepCase s label output s') :
    ∀ task ∈ s'.tasks, ∀ key value, K.writes task.request = some (key, value) →
      good key value := by
  intro task member key value written
  have fromCommit : ∀ {tasks : List (Task Request Reply Continuation)} {client : Nat},
      tasks ⊆ s.tasks → task ∈ tasks ++ output.requests.map (fun r => ⟨client, r.1, r.2, none⟩) →
        good key value := by
    intro tasks client remaining member
    rcases List.mem_append.mp member with old | new
    · exact kept.written task (remaining old) key value written
    · obtain ⟨request, requested, rfl⟩ := List.mem_map.mp new
      exact issued request requested key value written
  cases stepped with
  | act handled => exact fromCommit (List.Subset.refl _) member
  | serve found waiting =>
      rcases List.mem_or_eq_of_mem_set member with old | rfl
      · exact kept.written task old key value written
      · exact kept.written _ (List.mem_of_getElem? found) key value written
  | deliver found answered resumed => exact fromCommit (List.eraseIdx_subset) member

theorem Kept.listed_step (kept : K.Kept old good trace s)
    (stepped : P.StepCase s label output s') :
    ∀ task ∈ s'.tasks, ∀ reply, task.reply = some reply → ∀ key value,
      (key, value) ∈ K.lists reply →
        good key value ∧ K.Known old ((label, output) :: trace) key := by
  intro task member reply replied key value listed
  have before : good key value ∧ K.Known old trace key := by
    rcases Program.reply_of_stepCase stepped member replied with
      earlier | ⟨fate, served, inFlight, waiting, -, rfl⟩
    · exact kept.listed task earlier reply replied key value listed
    · rcases K.lists_answer listed with stored | ⟨request, own, written⟩
      · exact (kept.stored key value stored).imp_right fun settled => settled.known
      · obtain ⟨writer, writing, -, unserved, rfl⟩ := State.mem_unanswered.mp own
        exact ⟨kept.written writer writing key value written,
          kept.known key (mem_pending_of_writes writing unserved written)⟩
  exact before.imp_right fun known => known.step _

/-- **A step that writes good values under new keys keeps the invariant.** -/
theorem Kept.step (kept : K.Kept old good trace s)
    (fresh : K.FreshlyIssued old trace output.requests)
    (issued : ∀ request ∈ output.requests, ∀ key value,
      K.writes request.1 = some (key, value) → good key value)
    (stepped : P.StepCase s label output s') : K.Kept old good ((label, output) :: trace) s' where
  nodup := kept.nodup_step fresh stepped
  known := kept.known_step stepped
  stored := kept.stored_step fresh stepped
  written := kept.written_step issued stepped
  listed := kept.listed_step stepped

/-- The invariant holds at the start when what is stored is old and good. -/
theorem kept_start (idle : s.tasks = [])
    (initial : ∀ key value, K.contents s.server key = some value → old key ∧ good key value) :
    K.Kept old good [] s where
  nodup := by simp [idle, pending]
  known := by simp [idle, pending]
  stored key value stored :=
    ⟨(initial key value stored).2, .inl (initial key value stored).1, by simp [idle, pending]⟩
  written := by simp [idle]
  listed := by simp [idle]

/-! ## Replies that list what is stored -/

/-- **Listed keys stay settled** where replies list what is stored. -/
theorem ListingsSettled.step (settled : K.ListingsSettled old trace s) (lists : K.ListsStored)
    (kept : K.Kept old good trace s) (fresh : K.FreshlyIssued old trace output.requests)
    (stepped : P.StepCase s label output s') :
    K.ListingsSettled old ((label, output) :: trace) s' := by
  intro task member reply replied key value listed
  rcases Program.reply_of_stepCase stepped member replied with
    earlier | ⟨fate, served, -, -, -, rfl⟩
  · exact (settled task earlier reply replied key value listed).step fresh stepped
  · exact (kept.stored key value (lists s fate served key value listed)).2.step fresh stepped

theorem listingsSettled_start (idle : s.tasks = []) : K.ListingsSettled old [] s := by
  intro task member
  rw [idle] at member
  cases member

end

end Store

end RequestReply

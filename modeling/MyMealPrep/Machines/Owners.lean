import MyMealPrep.Machines.LocalViews
import MyMealPrep.Machines.SingleValues

/-!
# Stores whose values have owners

Several tenants share a keyed store. The server does not check who asks, so it is
the clients that keep the tenants apart: a client removes only what one of its rows
names, and its rows come from listings that it has filtered by owner.

`Ownership` says whose a value is, who uses a client, what the rows of a client name
and when they are current. A program keeps to it (`Ownership.Law`) when each row that
appears in a client with current rows names a key that was listed with a value of the
tenant, and each removal that is issued is of a key that a current row names. Keys
that are created once are what makes this enough: a value listed under a key is the
only one that is ever there, also when it was listed to the client that is writing it.

Then a value disappears only by a removal that a client issued while it was used by
the owner of the value (`Ownership.removed_by_owner`).
-/

set_option autoImplicit false

namespace RequestReply

variable {Client Server Request Reply Continuation Action Input Fate Event κ ν T : Type}
  {P : Program Client Server Request Reply Continuation Action Input Fate Event}

/-! ## Owners -/

/-- Whose the values of a store are, who uses a client, which keys its rows name and when they
are current, which key a request is to remove and which keys are never created. -/
structure Ownership (K : Store P κ ν) (T : Type) where
  owner : ν → Option T
  tenant : Client → Option T
  names : Client → κ → Prop
  current : Trace Request Continuation Action Input Fate Event → Nat → Prop
  removal : Request → Option κ
  barred : Trace Request Continuation Action Input Fate Event → κ → Prop
  removal_of_lost : ∀ {fate : Fate} {server : Server} {request : Request} {key : κ} {value : ν},
    K.contents server key = some value → K.contents (P.serve fate server request).1 key = none →
      removal request = some key

namespace Ownership

variable {K : Store P κ ν}

/-- How a program keeps to the owners, in the runs that a guard allows and while an invariant of
its own holds. Keys are created once, with good values. A row that appears in a client
whose rows are current was there before, under the same tenant, or names a key listed with
a value of the tenant. A removal issued is of a key that a current row names, or of one that
is never created. -/
structure Law (O : Ownership K T) (old : κ → Prop) (good : κ → ν → Prop)
    (allowed : Trace Request Continuation Action Input Fate Event →
      State Client Server Request Reply Continuation → Label Action Input Fate → Prop)
    (invariant : Trace Request Continuation Action Input Fate Event →
      State Client Server Request Reply Continuation → Prop) : Prop where
  fresh : ∀ {trace s label output s'}, allowed trace s label → P.StepCase s label output s' →
    K.FreshlyIssued old trace output.requests
  written : ∀ {trace s label output s'}, allowed trace s label → P.StepCase s label output s' →
    ∀ issued ∈ output.requests, ∀ key value, K.writes issued.1 = some (key, value) → good key value
  invariant_step : ∀ {trace s label output s'}, invariant trace s → allowed trace s label →
    P.StepCase s label output s' → invariant ((label, output) :: trace) s'
  rows : ∀ {trace s label output s'}, K.Kept old good trace s → allowed trace s label →
    P.StepCase s label output s' → ∀ client, O.current ((label, output) :: trace) client →
    ∀ key, O.names (s'.clients client) key →
      (O.current trace client ∧ O.tenant (s'.clients client) = O.tenant (s.clients client) ∧
        O.names (s.clients client) key) ∨
      ∃ task ∈ s.tasks, ∃ reply value, task.reply = some reply ∧ (key, value) ∈ K.lists reply ∧
        O.owner value = O.tenant (s'.clients client)
  removals : ∀ {trace s label output s'}, invariant trace s → allowed trace s label →
    P.StepCase s label output s' →
    ∀ issued ∈ output.requests, ∀ key, O.removal issued.1 = some key →
      (O.current trace output.client ∧ O.names (s.clients output.client) key) ∨
        O.barred trace key
  barred_step : ∀ {trace s label output s' key}, allowed trace s label →
    P.StepCase s label output s' → O.barred trace key → O.barred ((label, output) :: trace) key
  barred_unknown : ∀ {trace key}, O.barred trace key → ¬ K.Known old trace key

theorem Law.strengthen {O : Ownership K T} {old : κ → Prop} {good : κ → ν → Prop}
    {allowed stronger : Trace Request Continuation Action Input Fate Event →
      State Client Server Request Reply Continuation → Label Action Input Fate → Prop}
    {invariant : Trace Request Continuation Action Input Fate Event →
      State Client Server Request Reply Continuation → Prop}
    (law : O.Law old good allowed invariant)
    (implies : ∀ {trace s label}, stronger trace s label → allowed trace s label) :
    O.Law old good stronger invariant where
  fresh permitted := law.fresh (implies permitted)
  written permitted := law.written (implies permitted)
  invariant_step kept permitted := law.invariant_step kept (implies permitted)
  rows kept permitted := law.rows kept (implies permitted)
  removals kept permitted := law.removals kept (implies permitted)
  barred_step permitted := law.barred_step (implies permitted)
  barred_unknown := law.barred_unknown

section

variable {O : Ownership K T} {old : κ → Prop} {good : κ → ν → Prop}
  {allowed : Trace Request Continuation Action Input Fate Event →
    State Client Server Request Reply Continuation → Label Action Input Fate → Prop}
  {invariant : Trace Request Continuation Action Input Fate Event →
    State Client Server Request Reply Continuation → Prop}
  {trace : Trace Request Continuation Action Input Fate Event}
  {s₀ s s' : State Client Server Request Reply Continuation} {label : Label Action Input Fate}
  {output : Output Request Continuation Event} {key : κ}

/-- Whatever occurs under the key is the tenant's. -/
def Owned (O : Ownership K T) (s : State Client Server Request Reply Continuation) (key : κ)
    (tenant : Option T) : Prop :=
  ∀ value, K.Occurs s key value → O.owner value = tenant

theorem Owned.step {tenant : Option T} (owned : O.Owned s key tenant)
    (known : K.Known old trace key) (fresh : K.FreshlyIssued old trace output.requests)
    (stepped : P.StepCase s label output s') : O.Owned s' key tenant :=
  Store.only_step owned known fresh stepped

/-- At a moment of a run from `s₀` a client issued a request, used by the tenant. -/
def IssuedBy (O : Ownership K T)
    (allowed : Trace Request Continuation Action Input Fate Event →
      State Client Server Request Reply Continuation → Label Action Input Fate → Prop)
    (s₀ : State Client Server Request Reply Continuation)
    (trace : Trace Request Continuation Action Input Fate Event) (client : Nat)
    (request : Request) (tenant : Option T) : Prop :=
  ∃ later entry earlier moment, trace = later ++ entry :: earlier ∧
    P.Run allowed s₀ earlier moment ∧ entry.2.client = client ∧
    (∃ continuation, (request, continuation) ∈ entry.2.requests) ∧
    O.tenant (moment.clients client) = tenant

theorem IssuedBy.cons {client : Nat} {request : Request} {tenant : Option T}
    (issued : O.IssuedBy allowed s₀ trace client request tenant)
    (entry : Label Action Input Fate × Output Request Continuation Event) :
    O.IssuedBy allowed s₀ (entry :: trace) client request tenant := by
  obtain ⟨later, issuing, earlier, moment, rfl, rest⟩ := issued
  exact ⟨entry :: later, issuing, earlier, moment, rfl, rest⟩

/-- The removal in flight is of a key that nobody creates, or of a value of the tenant by
whom it was issued. -/
def Authorized (O : Ownership K T) (old : κ → Prop)
    (allowed : Trace Request Continuation Action Input Fate Event →
      State Client Server Request Reply Continuation → Label Action Input Fate → Prop)
    (s₀ : State Client Server Request Reply Continuation)
    (trace : Trace Request Continuation Action Input Fate Event)
    (s : State Client Server Request Reply Continuation)
    (task : Task Request Reply Continuation) (key : κ) : Prop :=
  O.barred trace key ∨ K.Known old trace key ∧
    ∃ tenant, O.Owned s key tenant ∧ O.IssuedBy allowed s₀ trace task.client task.request tenant

/-- The rows of the clients are their tenants', and so are the removals in flight. -/
structure Kept (O : Ownership K T) (old : κ → Prop) (good : κ → ν → Prop)
    (allowed : Trace Request Continuation Action Input Fate Event →
      State Client Server Request Reply Continuation → Label Action Input Fate → Prop)
    (invariant : Trace Request Continuation Action Input Fate Event →
      State Client Server Request Reply Continuation → Prop)
    (s₀ : State Client Server Request Reply Continuation)
    (trace : Trace Request Continuation Action Input Fate Event)
    (s : State Client Server Request Reply Continuation) : Prop where
  store : K.Kept old good trace s
  single : K.Single s
  invariant : invariant trace s
  rows : ∀ client, O.current trace client → ∀ key, O.names (s.clients client) key →
    K.Known old trace key ∧ O.Owned s key (O.tenant (s.clients client))
  removals : ∀ task ∈ s.tasks, ∀ key, O.removal task.request = some key →
    O.Authorized old allowed s₀ trace s task key

/-- A removal in flight stays authorized. -/
theorem Authorized.step {task served : Task Request Reply Continuation}
    (authorized : O.Authorized old allowed s₀ trace s task key)
    (law : O.Law old good allowed invariant) (permitted : allowed trace s label)
    (stepped : P.StepCase s label output s') (client : served.client = task.client)
    (request : served.request = task.request) :
    O.Authorized old allowed s₀ ((label, output) :: trace) s' served key := by
  rw [Authorized, client, request]
  rcases authorized with never | ⟨known, tenant, owned, issued⟩
  · exact .inl (law.barred_step permitted stepped never)
  · have afterwards := owned.step known (law.fresh permitted stepped) stepped
    exact .inr ⟨known.step _, tenant, afterwards, issued.cons _⟩

theorem Kept.rows_step (kept : O.Kept old good allowed invariant s₀ trace s)
    (law : O.Law old good allowed invariant) (permitted : allowed trace s label)
    (stepped : P.StepCase s label output s') (client : Nat)
    (now : O.current ((label, output) :: trace) client) (key : κ)
    (named : O.names (s'.clients client) key) :
    K.Known old ((label, output) :: trace) key ∧
      O.Owned s' key (O.tenant (s'.clients client)) := by
  have fresh := law.fresh permitted stepped
  rcases law.rows kept.store permitted stepped client now key named with
    ⟨before, sameTenant, namedBefore⟩ | ⟨task, member, reply, value, replied, listed, own⟩
  · obtain ⟨known, owned⟩ := kept.rows client before key namedBefore
    exact ⟨known.step _, sameTenant ▸ owned.step known fresh stepped⟩
  · have occurs : K.Occurs s key value := .inr (.inr ⟨task, member, reply, replied, listed⟩)
    have owned : O.Owned s key (O.tenant (s'.clients client)) := by
      intro other otherOccurs
      rw [kept.single key other value otherOccurs occurs]
      exact own
    have known := kept.store.known_of_occurs occurs
    exact ⟨known.step _, owned.step known fresh stepped⟩

/-- A removal that is issued is authorized. -/
theorem Kept.authorized_of_issued (kept : O.Kept old good allowed invariant s₀ trace s)
    (law : O.Law old good allowed invariant) (before : P.Run allowed s₀ trace s)
    (permitted : allowed trace s label) (stepped : P.StepCase s label output s')
    {issued : Request × Continuation} (requested : issued ∈ output.requests)
    (removes : O.removal issued.1 = some key) :
    O.Authorized old allowed s₀ ((label, output) :: trace) s'
      ⟨output.client, issued.1, issued.2, none⟩ key := by
  rcases law.removals kept.invariant permitted stepped issued requested key removes with
    ⟨was, named⟩ | never
  · obtain ⟨known, owned⟩ := kept.rows output.client was key named
    have afterwards := owned.step known (law.fresh permitted stepped) stepped
    exact .inr ⟨known.step _, _, afterwards, [], (label, output), trace, s, rfl, before, rfl,
      ⟨issued.2, requested⟩, rfl⟩
  · exact .inl (law.barred_step permitted stepped never)

/-- **One step keeps the rows and the removals with their tenants.** -/
theorem Kept.step (kept : O.Kept old good allowed invariant s₀ trace s)
    (law : O.Law old good allowed invariant) (before : P.Run allowed s₀ trace s)
    (permitted : allowed trace s label) (stepped : P.StepCase s label output s') :
    O.Kept old good allowed invariant s₀ ((label, output) :: trace) s' where
  store := kept.store.step (law.fresh permitted stepped) (law.written permitted stepped) stepped
  single := kept.single.step kept.store (law.fresh permitted stepped) stepped
  invariant := law.invariant_step kept.invariant permitted stepped
  rows client now key named := kept.rows_step law permitted stepped client now key named
  removals := by
    intro task member key removes
    rcases Program.mem_tasks_of_stepCase stepped member with
      ⟨earlier, inFlight, client, request⟩ | ⟨issued, requested, rfl⟩
    · have authorized := kept.removals earlier inFlight key (request ▸ removes)
      exact authorized.step law permitted stepped client.symm request.symm
    · exact kept.authorized_of_issued law before permitted stepped requested removes

/-- At the start nothing is in flight, what is stored is good, the invariant holds and no row
names a key. -/
structure Start (O : Ownership K T) (old : κ → Prop) (good : κ → ν → Prop)
    (invariant : Trace Request Continuation Action Input Fate Event →
      State Client Server Request Reply Continuation → Prop)
    (s₀ : State Client Server Request Reply Continuation) : Prop where
  idle : s₀.tasks = []
  stored : ∀ key value, K.contents s₀.server key = some value → old key ∧ good key value
  invariant : invariant [] s₀
  unnamed : ∀ client key, ¬ O.names (s₀.clients client) key

theorem kept_run (law : O.Law old good allowed invariant) (start : O.Start old good invariant s₀)
    (run : P.Run allowed s₀ trace s) : O.Kept old good allowed invariant s₀ trace s := by
  induction run with
  | start =>
      refine ⟨Store.kept_start start.idle start.stored, Store.single_start start.idle,
        start.invariant, ?_, ?_⟩
      · intro client _ key named
        exact absurd named (start.unnamed client key)
      · intro task member
        simp [start.idle] at member
  | step before permitted stepped ih =>
      exact ih.step law before permitted (Program.stepCase_of_step stepped)

/-- **A value disappears only by its owner**: the step serves a removal that a client issued
at a moment when it was used by the owner of the value. -/
theorem removed_by_owner (law : O.Law old good allowed invariant)
    (start : O.Start old good invariant s₀) (run : P.Run allowed s₀ trace s)
    (stepped : P.step s label = some (output, s')) {value : ν}
    (stored : K.contents s.server key = some value) (gone : K.contents s'.server key = none) :
    ∃ request continuation, output.served = some (request, continuation) ∧
      O.removal request = some key ∧
      O.IssuedBy allowed s₀ trace output.client request (O.owner value) := by
  have kept := kept_run law start run
  cases Program.stepCase_of_step stepped with
  | act handled =>
      rw [State.commit_server, stored] at gone
      cases gone
  | @serve index fate task inFlight waiting =>
      have removes := O.removal_of_lost stored gone
      refine ⟨task.request, task.continuation, rfl, removes, ?_⟩
      rcases kept.removals task (List.mem_of_getElem? inFlight) key removes with
        never | ⟨_, tenant, owned, issued⟩
      · exact absurd (kept.store.stored key value stored).2.known (law.barred_unknown never)
      · rw [owned value (.inl stored)]
        exact issued
  | deliver inFlight answered resumed =>
      rw [State.commit_server, stored] at gone
      cases gone

/-- **Nothing is ever stored under a barred key**, whatever follows. -/
theorem Law.unstored_of_barred (law : O.Law old good allowed invariant)
    (kept : K.Kept old good trace s) (never : O.barred trace key)
    {later : Trace Request Continuation Action Input Fate Event}
    (run : P.Run (fun later => allowed (later ++ trace)) s later s') :
    K.contents s'.server key = none := by
  have afterwards : K.Kept old good (later ++ trace) s' ∧ O.barred (later ++ trace) key := by
    refine run.invariant (I := fun later s' => K.Kept old good (later ++ trace) s' ∧
      O.barred (later ++ trace) key) ⟨kept, never⟩ ?_
    intro later s label output s' ⟨kept, never⟩ permitted stepped
    exact ⟨kept.step (law.fresh permitted stepped) (law.written permitted stepped) stepped,
      law.barred_step permitted stepped never⟩
  cases found : K.contents s'.server key with
  | none => rfl
  | some value =>
      have known := (afterwards.1.stored key value found).2.known
      exact absurd known (law.barred_unknown afterwards.2)

end

/-! ## Clients that see their own writes -/

section

variable {success : Fate} {serves : K.ServesStored} {old : κ → Prop} {good : κ → ν → Prop}
  {allowed : Trace Request Continuation Action Input Fate Event →
    State Client Server Request Reply Continuation → Label Action Input Fate → Prop}
  {invariant : Trace Request Continuation Action Input Fate Event →
    State Client Server Request Reply Continuation → Prop}
  {trace : Trace Request Continuation Action Input Fate Event}
  {s : State Client Server Request Reply Continuation}

/-- The invariant of the store does not depend on what the clients see. -/
theorem kept_of_withLocalWrites
    (kept : (K.withLocalWrites success serves).Kept old good trace s) :
    K.Kept old good trace s where
  nodup := kept.nodup
  known := kept.known
  stored key value stored := (kept.stored key value stored).imp_right
    fun settled => ⟨settled.known, settled.notPending⟩
  written := kept.written
  listed := kept.listed

variable (O : Ownership K T)

/-- The same owners, for clients with local stores. -/
def withLocalWrites (success : Fate) (serves : K.ServesStored) :
    Ownership (K.withLocalWrites success serves) T where
  owner := O.owner
  tenant := O.tenant
  names := O.names
  current := O.current
  removal := O.removal
  barred := O.barred
  removal_of_lost := O.removal_of_lost

variable {O}

/-- **Clients with local stores keep to the owners as well**, when the invariant is not about the
requests in flight. -/
theorem Law.withLocalWrites (law : O.Law old good allowed invariant)
    (ofClients : ∀ {trace s} (tasks : List (Task Request Reply Continuation)),
      invariant trace { s with tasks } → invariant trace s) :
    (O.withLocalWrites success serves).Law old good allowed invariant where
  fresh permitted stepped := by
    obtain ⟨tasks, own⟩ := Program.stepCase_of_withLocalWrites stepped
    exact (law.fresh permitted own).withLocalWrites
  written permitted stepped := by
    obtain ⟨tasks, own⟩ := Program.stepCase_of_withLocalWrites stepped
    exact law.written permitted own
  invariant_step kept permitted stepped := by
    obtain ⟨tasks, own⟩ := Program.stepCase_of_withLocalWrites stepped
    exact ofClients tasks (law.invariant_step kept permitted own)
  rows kept permitted stepped client now key named := by
    obtain ⟨tasks, own⟩ := Program.stepCase_of_withLocalWrites stepped
    exact law.rows (kept_of_withLocalWrites kept) permitted own client now key named
  removals kept permitted stepped issued requested key removes := by
    obtain ⟨tasks, own⟩ := Program.stepCase_of_withLocalWrites stepped
    exact law.removals kept permitted own issued requested key removes
  barred_step permitted stepped never := by
    obtain ⟨tasks, own⟩ := Program.stepCase_of_withLocalWrites stepped
    exact law.barred_step permitted own never
  barred_unknown never := law.barred_unknown never

theorem Start.withLocalWrites {s₀ : State Client Server Request Reply Continuation}
    (start : O.Start old good invariant s₀) :
    (O.withLocalWrites success serves).Start old good invariant s₀ where
  idle := start.idle
  stored := start.stored
  invariant := start.invariant
  unnamed := start.unnamed

end

end Ownership

end RequestReply

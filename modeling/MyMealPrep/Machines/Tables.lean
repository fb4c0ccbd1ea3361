import MyMealPrep.Machines.RequestReply

/-!
# Tables over data that changes

A table asks its data source for the rows when it is reloaded, and keeps them. When a row
is swiped away, the handler changes the data and tells the table to delete the row; the
table then counts the rows of the data source again and traps when there is not exactly
one less than it had. Whoever changes the data in between without reloading the table
breaks it.

`Table.withTable` is a program together with a table on one of its screens. A step of it
is a step of the program itself or leaves the program (`stepCase_withoutTables`), so that
its runs are runs of the program (`run_withoutTables`).

When swipes take exactly their row out of the data and no callback exchanges the data
while the screen is in front, the table has the rows of the data source in every run
(`Law.shows_step`).
-/

set_option autoImplicit false

namespace RequestReply

variable {Client Server Request Reply Continuation Action Input Fate Event α : Type}
  {P : Program Client Server Request Reply Continuation Action Input Fate Event}

/-- A step is one of its cases, and each of them is a step. -/
theorem Program.step_of_stepCase {s s' : State Client Server Request Reply Continuation}
    {label : Label Action Input Fate} {output : Output Request Continuation Event}
    (stepped : P.StepCase s label output s') : P.step s label = some (output, s') := by
  cases stepped with
  | act handled => exact P.step_act handled
  | serve inFlight waiting => simp only [Program.step, inFlight, waiting]
  | deliver inFlight answered resumed => exact P.step_deliver inFlight answered resumed

/-! ## Programs with a table -/

/-- A client with a table: whether its screen is in front, and the rows of the table. -/
structure Screen (Client α : Type) where
  client : Client
  isShown : Bool := false
  rows : List α := []

/-- An action of the program, the screen of the table comes to the front or leaves it, or the
table is reloaded in front. -/
inductive OnScreen (Action : Type) where
  | own (action : Action)
  | viewWillAppear
  | viewWillDisappear
  | reloadData
deriving DecidableEq, Repr

/-- Where the rows come from, which row an action swipes away, which callbacks exchange the rows
and whether something on the screen reloads the table. -/
structure Table (P : Program Client Server Request Reply Continuation Action Input Fate Event)
    (α : Type) where
  dataSource : Client → List α
  swiped : Action → Option Nat
  loads : Continuation → Bool
  hasReload : Bool := false

namespace Table

variable (T : Table P α)

/-- The rows after an action. A row that is swiped away is deleted when one row less is left in
the data source, and otherwise the table traps. -/
def deleteRows (action : Action) (client : Client) (rows : List α) : Option (List α) :=
  match T.swiped action with
  | none => some rows
  | some row =>
      if (T.dataSource client).length + 1 = rows.length then some (rows.eraseIdx row) else none

/-- The program with the table. It is reloaded when its screen comes to the front. -/
def withTable : Program (Screen Client α) Server Request Reply Continuation (OnScreen Action)
    Input Fate Event where
  handle action screen :=
    match action with
    | .viewWillAppear =>
        some { client := { screen with isShown := true, rows := T.dataSource screen.client } }
    | .viewWillDisappear => some { client := { screen with isShown := false } }
    | .reloadData => some { client := { screen with rows := T.dataSource screen.client } }
    | .own action =>
        (P.handle action screen.client).bind fun effect =>
          (T.deleteRows action effect.client screen.rows).map fun rows =>
            { client := { screen with client := effect.client, rows }
              requests := effect.requests
              events := effect.events }
  resume continuation reply input screen :=
    (P.resume continuation reply input screen.client).map fun effect =>
      { client := { screen with client := effect.client }
        requests := effect.requests
        events := effect.events }
  serve := P.serve
  seen screen := P.seen screen.client

/-- Rows are swiped away on the screen, where they are shown, and everything else is done on
others. -/
def Offered (s : State (Screen Client α) Server Request Reply Continuation) :
    Label (OnScreen Action) Input Fate → Prop
  | .act client (.own action) =>
      match T.swiped action with
      | none => (s.clients client).isShown = false
      | some row => (s.clients client).isShown = true ∧ row < (s.clients client).rows.length
  | .act client .reloadData => T.hasReload = true ∧ (s.clients client).isShown = true
  | _ => True

/-- No callback exchanges the rows while the screen is in front. -/
def LoadsElsewhere (s : State (Screen Client α) Server Request Reply Continuation) :
    Label (OnScreen Action) Input Fate → Prop
  | .deliver index _ => ∀ task ∈ s.tasks[index]?, T.loads task.continuation = true →
      (s.clients task.client).isShown = false
  | _ => True

instance (s : State (Screen Client α) Server Request Reply Continuation)
    (label : Label (OnScreen Action) Input Fate) : Decidable (T.Offered s label) := by
  unfold Offered
  split
  · split <;> infer_instance
  · infer_instance
  · infer_instance

instance (s : State (Screen Client α) Server Request Reply Continuation)
    (label : Label (OnScreen Action) Input Fate) : Decidable (T.LoadsElsewhere s label) := by
  unfold LoadsElsewhere
  split <;> infer_instance

end Table

/-! ## The program without the table -/

/-- The state of the program itself. -/
def State.withoutTables (s : State (Screen Client α) Server Request Reply Continuation) :
    State Client Server Request Reply Continuation where
  clients client := (s.clients client).client
  server := s.server
  tasks := s.tasks

/-- The label of the program itself, when it is one. -/
def Label.withoutTables : Label (OnScreen Action) Input Fate → Option (Label Action Input Fate)
  | .act client (.own action) => some (.act client action)
  | .act _ _ => none
  | .serve index fate => some (.serve index fate)
  | .deliver index input => some (.deliver index input)

/-- The trace of the program itself. -/
def withoutTables (trace : Trace Request Continuation (OnScreen Action) Input Fate Event) :
    Trace Request Continuation Action Input Fate Event :=
  trace.filterMap fun entry => entry.1.withoutTables.map fun label => (label, entry.2)

namespace Table

variable {T : Table P α} {s s' : State (Screen Client α) Server Request Reply Continuation}
  {label : Label (OnScreen Action) Input Fate} {output : Output Request Continuation Event}

theorem withoutTables_commit (s : State (Screen Client α) Server Request Reply Continuation)
    (client : Nat) (tasks : List (Task Request Reply Continuation)) (screen : Screen Client α)
    (requests : List (Request × Continuation)) (events : List Event) :
    (s.commit client tasks { client := screen, requests, events }).withoutTables =
      s.withoutTables.commit client tasks { client := screen.client, requests, events } := by
  have clients : (fun other => (Function.update s.clients client screen other).client) =
      Function.update s.withoutTables.clients client screen.client := by
    funext other
    exact Function.apply_update (fun _ => Screen.client) s.clients client screen other
  exact congrArg (fun clients => State.mk clients s.server _) clients

/-- **A step is one of the program itself, or leaves it.** -/
theorem stepCase_withoutTables (stepped : T.withTable.StepCase s label output s') :
    (∃ own, label.withoutTables = some own ∧
      P.StepCase s.withoutTables own output s'.withoutTables) ∨
    label.withoutTables = none ∧ s'.withoutTables = s.withoutTables := by
  cases stepped with
  | @act client action effect handled =>
      cases action with
      | own action =>
          obtain ⟨inner, innerHandled, finished⟩ := Option.bind_eq_some_iff.mp handled
          obtain ⟨rows, -, rfl⟩ := Option.map_eq_some_iff.mp finished
          rw [withoutTables_commit]
          exact .inl ⟨.act client action, rfl, .act innerHandled⟩
      | _ =>
          obtain rfl := Option.some.inj handled
          refine .inr ⟨rfl, ?_⟩
          rw [withoutTables_commit]
          exact congrArg₂ (fun clients tasks => State.mk clients s.server tasks)
            (Function.update_eq_self _ _) (List.append_nil _)
  | @serve index fate task inFlight waiting =>
      exact .inl ⟨.serve index fate, rfl, .serve inFlight waiting⟩
  | @deliver index input task reply effect inFlight answered resumed =>
      obtain ⟨inner, innerResumed, rfl⟩ := Option.map_eq_some_iff.mp resumed
      rw [withoutTables_commit]
      exact .inl ⟨.deliver index input, rfl, .deliver inFlight answered innerResumed⟩

theorem run_withoutTables
    {allowed : Trace Request Continuation (OnScreen Action) Input Fate Event →
      State (Screen Client α) Server Request Reply Continuation →
        Label (OnScreen Action) Input Fate → Prop}
    {ownAllowed : Trace Request Continuation Action Input Fate Event →
      State Client Server Request Reply Continuation → Label Action Input Fate → Prop}
    (implies : ∀ {trace s label own}, allowed trace s label → label.withoutTables = some own →
      ownAllowed (withoutTables trace) s.withoutTables own)
    {s₀ : State (Screen Client α) Server Request Reply Continuation}
    {trace : Trace Request Continuation (OnScreen Action) Input Fate Event}
    (run : T.withTable.Run allowed s₀ trace s) :
    P.Run ownAllowed s₀.withoutTables (withoutTables trace) s.withoutTables := by
  induction run with
  | start => exact .start
  | @step trace s s' label output before permitted stepped ih =>
      rcases stepCase_withoutTables (Program.stepCase_of_step stepped) with
        ⟨own, isOwn, ownStep⟩ | ⟨notOwn, same⟩
      · have cons : withoutTables ((label, output) :: trace) =
            (own, output) :: withoutTables trace :=
          List.filterMap_cons_some (by rw [isOwn]; rfl)
        rw [cons]
        exact .step ih (implies permitted isOwn) (Program.step_of_stepCase ownStep)
      · have cons : withoutTables ((label, output) :: trace) = withoutTables trace :=
          List.filterMap_cons_none (by rw [notOwn]; rfl)
        rw [cons, same]
        exact ih

/-! ## What a table shows -/

/-- A table that is shown has the rows of its data source. -/
def Shows (T : Table P α) (screen : Screen Client α) : Prop :=
  screen.isShown = true → screen.rows = T.dataSource screen.client

/-- While an invariant of the program holds, a swipe takes exactly its row out of the data, and
only the callbacks of loads exchange the data. -/
structure Law (T : Table P α)
    (invariant : State Client Server Request Reply Continuation → Prop) : Prop where
  swipes : ∀ {s client action row effect}, invariant s →
    P.handle action (s.clients client) = some effect → T.swiped action = some row →
    T.dataSource effect.client = (T.dataSource (s.clients client)).eraseIdx row
  callbacks : ∀ {continuation reply input client effect}, T.loads continuation = false →
    P.resume continuation reply input client = some effect →
    T.dataSource effect.client = T.dataSource client

/-- **One step leaves the tables with the rows of their data sources**, when no callback
exchanges the data under a table that is shown. -/
theorem Law.shows_step {invariant : State Client Server Request Reply Continuation → Prop}
    (law : T.Law invariant) (holds : invariant s.withoutTables)
    (shows : ∀ client, T.Shows (s.clients client)) (offered : T.Offered s label)
    (elsewhere : T.LoadsElsewhere s label) (stepped : T.withTable.StepCase s label output s') :
    ∀ client, T.Shows (s'.clients client) := by
  cases stepped with
  | @act client action effect handled =>
      refine State.forall_clients_commit shows fun shown => ?_
      cases action with
      | viewWillAppear =>
          obtain rfl := Option.some.inj handled
          rfl
      | viewWillDisappear =>
          obtain rfl := Option.some.inj handled
          cases shown
      | reloadData =>
          obtain rfl := Option.some.inj handled
          rfl
      | own action =>
          obtain ⟨inner, innerHandled, finished⟩ := Option.bind_eq_some_iff.mp handled
          obtain ⟨rows, deleted, rfl⟩ := Option.map_eq_some_iff.mp finished
          rw [deleteRows] at deleted
          rw [Offered] at offered
          cases swiped : T.swiped action with
          | none =>
              rw [swiped] at offered
              exact absurd (shown.symm.trans offered) (by simp)
          | some row =>
              rw [swiped] at deleted
              obtain rfl := Option.some.inj (Option.ite_none_right_eq_some.mp deleted).2
              have taken := law.swipes holds innerHandled swiped
              exact (congrArg (List.eraseIdx · row) (shows client shown)).trans taken.symm
  | serve inFlight waiting => exact shows
  | @deliver index input task reply effect inFlight answered resumed =>
      refine State.forall_clients_commit shows fun shown => ?_
      obtain ⟨inner, innerResumed, rfl⟩ := Option.map_eq_some_iff.mp resumed
      cases loads : T.loads task.continuation with
      | true =>
          have away := elsewhere task inFlight loads
          exact absurd (shown.symm.trans away) (by simp)
      | false => exact (shows task.client shown).trans (law.callbacks loads innerResumed).symm

/-- **Tables in front have the rows of their data sources in every run** in which no callback
exchanges the data under them. -/
theorem Law.shows_run {invariant : State Client Server Request Reply Continuation → Prop}
    (law : T.Law invariant)
    {allowed : Trace Request Continuation (OnScreen Action) Input Fate Event →
      State (Screen Client α) Server Request Reply Continuation →
        Label (OnScreen Action) Input Fate → Prop}
    (undisturbed : ∀ {trace s label}, allowed trace s label →
      T.Offered s label ∧ T.LoadsElsewhere s label)
    {s₀ : State (Screen Client α) Server Request Reply Continuation}
    (hidden : ∀ client, (s₀.clients client).isShown = false)
    (holds : ∀ {trace s}, T.withTable.Run allowed s₀ trace s → invariant s.withoutTables)
    {trace : Trace Request Continuation (OnScreen Action) Input Fate Event}
    (run : T.withTable.Run allowed s₀ trace s) : ∀ client, T.Shows (s.clients client) := by
  induction run with
  | start =>
      intro client shown
      exact absurd (shown.symm.trans (hidden client)) (by simp)
  | step before permitted stepped ih =>
      obtain ⟨offered, elsewhere⟩ := undisturbed permitted
      exact law.shows_step (holds before) ih offered elsewhere (Program.stepCase_of_step stepped)

/-- A swipe that leaves one row less takes the row out of the table. -/
theorem handle_swiped {screen : Screen Client α} {action : Action} {row : Nat}
    {effect : Effect Client Request Continuation Event} (swiped : T.swiped action = some row)
    (handled : P.handle action screen.client = some effect)
    (taken : (T.dataSource effect.client).length + 1 = screen.rows.length) :
    T.withTable.handle (.own action) screen = some
      { client := { screen with client := effect.client, rows := screen.rows.eraseIdx row }
        requests := effect.requests
        events := effect.events } := by
  simp only [withTable, handled, Option.bind_some, deleteRows, swiped, if_pos taken,
    Option.map_some]

/-- A swipe that the program itself handles traps exactly when the table and the data source
do not count the same rows. -/
theorem swipe_traps_iff {client : Nat} {action : Action} {row : Nat}
    {effect : Effect Client Request Continuation Event} (swiped : T.swiped action = some row)
    (handled : P.handle action (s.clients client).client = some effect)
    (taken : (T.dataSource effect.client).length + 1 =
      (T.dataSource (s.clients client).client).length) :
    T.withTable.step s (.act client (.own action)) = none ↔
      (T.dataSource (s.clients client).client).length ≠ (s.clients client).rows.length := by
  by_cases same : (T.dataSource effect.client).length + 1 = (s.clients client).rows.length
  · rw [T.withTable.step_act (handle_swiped swiped handled same)]
    exact iff_of_false (by simp) (by omega)
  · refine iff_of_true ?_ (by omega)
    simp only [Program.step, withTable, handled, Option.bind_some, deleteRows, swiped,
      if_neg same, Option.map_none]

end Table

end RequestReply

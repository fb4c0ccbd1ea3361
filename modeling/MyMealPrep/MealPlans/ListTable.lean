import MyMealPrep.Machines.Tables
import MyMealPrep.MealPlans.Rows

/-!
# The table of plans

`MealPlanListViewController` reloads its table when it comes to the front and deletes a row
when it is swiped away. A fetch that was started at the home screen exchanges the plans
whenever its callback runs, and the table is not told.

So a swipe traps exactly when the fetch has changed the number of plans since the table was
reloaded (`swipe_crashes_iff`). When no such callback runs while the list is in front, the
table has the plans of the list in every run, and swipes do not trap
(`table_shows_plans`).
-/

set_option autoImplicit false

namespace MyMealPrep.MealPlans

open RequestReply (OnScreen Program Screen Table)

namespace ListTable

variable {platform : Platform}

/-- The table of `MealPlanListViewController`. -/
def table (platform : Platform) : Table (controllerProgram platform) Ref where
  dataSource client := client.mealPlans
  swiped
    | .onScreen (.commitDelete row) => some row
    | _ => none
  loads
    | .mealPlansLoaded => true
    | _ => false

abbrev State :=
  RequestReply.State (Screen Client Ref) Firestore.Collection Request Reply Continuation
abbrev Label := RequestReply.Label (OnScreen ControllerAction) Unit Fate
abbrev Trace :=
  RequestReply.Trace Request Continuation (OnScreen ControllerAction) Unit Fate Empty

/-- The plans of any number of clients, with their tables. -/
def program (platform : Platform) : Program (Screen Client Ref) Firestore.Collection Request Reply
    Continuation (OnScreen ControllerAction) Unit Fate Empty :=
  (table platform).withTable

/-- The runs of the program: rows are swiped where they are shown, and plans are created with
fresh UUIDs. -/
def Used (platform : Platform) (trace : Trace) (s : State) (label : Label) : Prop :=
  (table platform).Offered s label ∧
    ∀ own ∈ label.withoutTables, FreshPlanUUIDs (RequestReply.withoutTables trace)
      s.withoutTables own

instance (trace : Trace) (s : State) (label : Label) : Decidable (Used platform trace s label) :=
  inferInstanceAs (Decidable (_ ∧ ∀ own ∈ label.withoutTables, _))

/-! ## Swipes and callbacks -/

section

variable {texts : TextEquality} {client : Client} {row : Nat} {effect : Effect}

theorem commitDelete_eq_none (outOfRange : client.mealPlans.length ≤ row) :
    commitDelete texts row client = none := by
  rw [commitDelete, List.getElem?_eq_none outOfRange]

/-- With distinct rows, a swipe takes exactly its row out of the list. -/
theorem exists_commitDelete (texts : TextEquality) (rows : DistinctRows client)
    (inRange : row < client.mealPlans.length) :
    ∃ mealPlanUID, commitDelete texts row client = some
      { client := { client with mealPlans := client.mealPlans.eraseIdx row }
        requests := [(.deleteMealPlan mealPlanUID, .mealPlanDeleted)] } := by
  have listed : client.mealPlans[row]? = some _ := List.getElem?_eq_getElem inRange
  obtain ⟨mealPlanUID, hasUID⟩ :=
    Option.isSome_iff_exists.mp (rows.named _ (List.mem_of_getElem? listed))
  obtain ⟨plan, read, named⟩ := Option.bind_eq_some_iff.mp hasUID
  refine ⟨mealPlanUID, ?_⟩
  rw [commitDelete, listed]
  simp only [read, deleteMealPlan, rows.findIdx? texts listed, UserController.deleteMealPlan, named,
    Option.map_some]

theorem mealPlans_commitDelete (rows : DistinctRows client)
    (handled : commitDelete texts row client = some effect) :
    effect.client.mealPlans = client.mealPlans.eraseIdx row := by
  rcases Nat.lt_or_ge row client.mealPlans.length with inRange | outOfRange
  · obtain ⟨mealPlanUID, taken⟩ := exists_commitDelete texts rows inRange
    obtain rfl := Option.some.inj (taken.symm.trans handled)
    rfl
  · rw [commitDelete_eq_none outOfRange] at handled
    cases handled

end

/-- Swipes take exactly their rows, and only the callback of the fetch exchanges the plans. -/
theorem law (platform : Platform) : (table platform).Law RowsKept where
  swipes := by
    intro s client action row effect kept handled swiped
    cases action with
    | onScreen action =>
        cases action with
        | commitDelete swipedRow =>
            obtain rfl := Option.some.inj swiped
            exact mealPlans_commitDelete (kept.rows client) handled
        | _ => cases swiped
    | _ => cases swiped
  callbacks := by
    intro continuation reply input client effect noLoad resumed
    obtain rfl := (loadedCase_of_resume resumed).2 (by
      rintro rfl
      cases noLoad)
    rfl

/-! ## The results -/

section

variable {s₀ s : State} {trace : Trace}

theorem rowsKept_run (started : Started s₀.withoutTables)
    (run : (program platform).Run (Used platform) s₀ trace s) : RowsKept s.withoutTables := by
  have ownRun : (controllerProgram platform).Run FreshPlanUUIDs s₀.withoutTables
      (RequestReply.withoutTables trace) s.withoutTables :=
    Table.run_withoutTables (fun used isOwn => used.2 _ isOwn) run
  exact ownRun.invariant (I := fun _ s => RowsKept s) (rowsKept_start started)
    fun kept permitted stepped => kept.step permitted stepped

/-- A swipe traps exactly when the table and the list do not count the same plans. -/
theorem step_commitDelete_eq_none_iff {client row : Nat}
    (distinct : DistinctRows (s.clients client).client)
    (shown : row < (s.clients client).rows.length) :
    (program platform).step s (.act client (.own (.onScreen (.commitDelete row)))) = none ↔
      (s.clients client).client.mealPlans.length ≠ (s.clients client).rows.length := by
  rcases Nat.lt_or_ge row (s.clients client).client.mealPlans.length with inRange | outOfRange
  · obtain ⟨mealPlanUID, handled⟩ := exists_commitDelete platform.texts distinct inRange
    refine Table.swipe_traps_iff rfl handled ?_
    show ((s.clients client).client.mealPlans.eraseIdx row).length + 1 =
      (s.clients client).client.mealPlans.length
    rw [List.length_eraseIdx_of_lt inRange]
    omega
  · refine iff_of_true ?_ (by omega)
    have trapped : handleAll platform (.onScreen (.commitDelete row)) (s.clients client).client =
        none := commitDelete_eq_none outOfRange
    simp only [program, Program.step, Table.withTable, controllerProgram, trapped,
      Option.bind_none]

/-- A run in which no fetch exchanges the plans of a list in front. -/
def LoadedElsewhere (platform : Platform) (trace : Trace) (s : State) (label : Label) : Prop :=
  Used platform trace s label ∧ (table platform).LoadsElsewhere s label

instance (trace : Trace) (s : State) (label : Label) :
    Decidable (LoadedElsewhere platform trace s label) :=
  inferInstanceAs (Decidable (_ ∧ _))

theorem used_of_loadedElsewhere
    (run : (program platform).Run (LoadedElsewhere platform) s₀ trace s) :
    (program platform).Run (Used platform) s₀ trace s := by
  induction run with
  | start => exact .start
  | step before permitted stepped ih => exact .step ih permitted.1 stepped

/-- **A swipe crashes exactly when the table and the list do not count the same plans**, in
every run and for every row of the table. -/
theorem swipe_crashes_iff (started : Started s₀.withoutTables)
    (run : (program platform).Run (Used platform) s₀ trace s) {client row : Nat}
    (shown : row < (s.clients client).rows.length) :
    (program platform).step s (.act client (.own (.onScreen (.commitDelete row)))) = none ↔
      (s.clients client).client.mealPlans.length ≠ (s.clients client).rows.length :=
  step_commitDelete_eq_none_iff ((rowsKept_run started run).rows client) shown

/-- The home screen, with no list in front. -/
def homeScreens : State where
  clients client := { client := home.clients client }
  server := home.server
  tasks := home.tasks

theorem homeScreens_started : Started homeScreens.withoutTables := home_started

/-- Two plans are created while a fetch is in flight, and it delivers one when the list shows
the two. -/
theorem swipe_crashes_iff_late :
    ∃ trace s, (program greenwich).Run (Used greenwich) homeScreens trace s ∧
      (s.clients 0).rows.length = 2 ∧
      (program greenwich).step s (.act 0 (.own (.onScreen (.commitDelete 0)))) = none := by
  have executed : ((program greenwich).execute (Used greenwich) homeScreens
      [.act 0 (.own (.onScreen .fetchMealPlans)), .serve 0 .answered,
        .act 0 (.own (.onScreen (.selectRecipeButtonTapped ⟨0⟩ ⟨oneDay⟩ "P1" fun _ => ⟨0⟩))),
        .act 0 (.own (.onScreen (.selectRecipeButtonTapped ⟨0⟩ ⟨oneDay⟩ "P2" fun _ => ⟨0⟩))),
        .act 0 .viewWillAppear, .deliver 0 ()] []).any
        (fun last => decide ((last.2.clients 0).rows.length = 2 ∧
          (last.2.clients 0).client.mealPlans.length = 1)) = true := by
    decide
  obtain ⟨⟨trace, s⟩, followed, last⟩ := (Option.any_eq_true _ _).mp executed
  obtain ⟨two, one⟩ := of_decide_eq_true last
  dsimp only at two one
  have run := Program.Run.of_execute .start followed
  refine ⟨trace, s, run, two, (swipe_crashes_iff homeScreens_started run (by omega)).mpr ?_⟩
  rw [one, two]
  decide

/-- **The table has the plans of the list in every run in which no fetch exchanges them while
the list is in front**, and no swipe crashes. -/
theorem table_shows_plans (started : Started s₀.withoutTables)
    (hidden : ∀ client, (s₀.clients client).isShown = false)
    (run : (program platform).Run (LoadedElsewhere platform) s₀ trace s) {client : Nat}
    (shown : (s.clients client).isShown = true) :
    (s.clients client).rows = (s.clients client).client.mealPlans ∧
      ∀ row < (s.clients client).rows.length,
        (program platform).step s (.act client (.own (.onScreen (.commitDelete row)))) ≠ none := by
  have rows : (s.clients client).rows = (s.clients client).client.mealPlans :=
    (law platform).shows_run (fun permitted => ⟨permitted.1.1, permitted.2⟩) hidden
      (fun earlier => rowsKept_run started (used_of_loadedElsewhere earlier)) run client shown
  have distinct := (rowsKept_run started (used_of_loadedElsewhere run)).rows client
  refine ⟨rows, fun row inRange => ?_⟩
  rw [Ne, step_commitDelete_eq_none_iff distinct inRange, not_not, rows]

/-- A plan is created on top of the one fetched, and the table shows both. -/
theorem table_shows_plans_created :
    ∃ trace s, (program greenwich).Run (LoadedElsewhere greenwich) homeScreens trace s ∧
      (s.clients 0).rows.length = 2 ∧ (s.clients 0).rows = (s.clients 0).client.mealPlans ∧
      (program greenwich).step s (.act 0 (.own (.onScreen (.commitDelete 1)))) ≠ none := by
  have executed : ((program greenwich).execute (LoadedElsewhere greenwich) homeScreens
      [.act 0 (.own (.onScreen .fetchMealPlans)), .serve 0 .answered, .deliver 0 (),
        .act 0 (.own (.onScreen (.selectRecipeButtonTapped ⟨0⟩ ⟨oneDay⟩ "P1" fun _ => ⟨0⟩))),
        .act 0 .viewWillAppear] []).any
        (fun last => decide ((last.2.clients 0).isShown = true ∧
          (last.2.clients 0).rows.length = 2)) = true := by
    decide
  obtain ⟨⟨trace, s⟩, followed, last⟩ := (Option.any_eq_true _ _).mp executed
  obtain ⟨shown, two⟩ := of_decide_eq_true last
  have run := Program.Run.of_execute .start followed
  obtain ⟨rows, swipes⟩ := table_shows_plans homeScreens_started (fun _ => rfl) run shown
  exact ⟨trace, s, run, two, rows, swipes 1 (Nat.lt_of_lt_of_eq (by omega) two.symm)⟩

end

end ListTable

end MyMealPrep.MealPlans

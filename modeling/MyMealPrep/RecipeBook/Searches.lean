import MyMealPrep.RecipeBook.System

/-!
# The results of overlapping searches

A search is answered on a queue of the URL session. The callback there assigns the
recipes found and puts a block on the main queue, which assigns them again and
reloads the table. Nothing ties an answer to the search that is current, and the
table asks for rows by the count of its last reload.

So the answers are shown in the order in which they arrive: the recipes of the last
search that succeeded are shown in the end exactly when the answer that came last has
the same recipes (`shows_latest_iff`). And a row of the table is out of range as soon as
an answer arrives with fewer recipes than the table has rows (`rows_in_range`).

A search keeps its number, in the order in which the searches were issued, and an
answer with recipes is an event with that number. The source has no numbers: they say
which answer belongs to which search.
-/

set_option autoImplicit false

namespace MyMealPrep.RecipeBook.Searches

open RequestReply (Program)

/-! ## The screen -/

/-- The callback of a search, with the number of the search. -/
structure Continuation where
  search : Nat
deriving DecidableEq, Repr

/-- What the user, the main queue and the table do. -/
inductive Action where
  | searchBarSearchButtonClicked (searchTerm : String)
  | runMainQueue
  | cellForRowAt (row : Nat)
  | didSelectRowAt (row : Nat)
deriving DecidableEq, Repr

/-- A search has been answered with recipes. -/
structure Succeeded where
  search : Nat
  recipes : List Recipe
deriving DecidableEq, Repr

/-- `RecipeController.recipes`, the blocks on the main queue, the rows that the table reported at
its last reload, the recipe opened and the number of the next search. -/
structure Screen where
  recipes : List Recipe := []
  mainQueue : List (Except RecipeError (List Recipe)) := []
  reportedRows : Nat := 0
  selected : Option Recipe := none
  nextSearch : Nat := 0

abbrev Effect := RequestReply.Effect Screen String Continuation Succeeded
abbrev State := RequestReply.State Screen Unit String Reply Continuation
abbrev Label := RequestReply.Label Action Input Fate
abbrev Output := RequestReply.Output String Continuation Succeeded
abbrev Trace := RequestReply.Trace String Continuation Action Input Fate Succeeded

/-- The recipe search answers with data, or not. -/
def serve : Fate → Reply
  | .answeredWith json => .data json
  | _ => .error

/-- What `RecipeController.fetchRecipe` passes to its completion. -/
def fetchRecipe (reply : Reply) (input : Input) : Except RecipeError (List Recipe) :=
  match reply with
  | .data json =>
      match Recipe.decodeHits json input.clock with
      | none => .error .noData
      | some recipes => .ok recipes
  | _ => .error .noData

/-- `searchBarSearchButtonClicked` -/
def searchBarSearchButtonClicked (searchTerm : String) (screen : Screen) : Effect :=
  if searchTerm.isEmpty then { client := screen }
  else
    { client := { screen with nextSearch := screen.nextSearch + 1 }
      requests := [(searchTerm, ⟨screen.nextSearch⟩)] }

/-- The callback of the data task. The completion puts its block on the main queue. -/
def dataTaskCompleted (search : Nat) (reply : Reply) (input : Input) (screen : Screen) : Effect :=
  match fetchRecipe reply input with
  | .error recipeError =>
      { client := { screen with mainQueue := screen.mainQueue ++ [.error recipeError] } }
  | .ok recipes =>
      { client := { screen with recipes, mainQueue := screen.mainQueue ++ [.ok recipes] }
        events := [⟨search, recipes⟩] }

/-- The block on the main queue. -/
def showResult (result : Except RecipeError (List Recipe)) (screen : Screen) : Screen :=
  match result with
  | .error _ => screen
  | .ok recipes => { screen with recipes, reportedRows := recipes.length }

/-- The main queue runs its first block. -/
def runMainQueue (screen : Screen) : Option Effect :=
  match screen.mainQueue with
  | [] => none
  | result :: rest => some { client := showResult result { screen with mainQueue := rest } }

/-- `tableView(_:cellForRowAt:)` -/
def cellForRowAt (row : Nat) (screen : Screen) : Option Effect :=
  match screen.recipes[row]? with
  | none => none
  | some _ => some { client := screen }

/-- `tableView(_:didSelectRowAt:)` -/
def didSelectRowAt (row : Nat) (screen : Screen) : Option Effect :=
  match screen.recipes[row]? with
  | none => none
  | some recipe => some { client := { screen with selected := some recipe } }

/-- The handler of an action. -/
def handle (action : Action) (screen : Screen) : Option Effect :=
  match action with
  | .searchBarSearchButtonClicked searchTerm =>
      some (searchBarSearchButtonClicked searchTerm screen)
  | .runMainQueue => runMainQueue screen
  | .cellForRowAt row => cellForRowAt row screen
  | .didSelectRowAt row => didSelectRowAt row screen

/-- The search screens of any number of clients. -/
def program : Program Screen Unit String Reply Continuation Action Input Fate Succeeded where
  handle := handle
  resume continuation reply input screen :=
    some (dataTaskCompleted continuation.search reply input screen)
  serve fate _ _ := ((), serve fate)

/-- A search whose block runs right after its callback is a search of the recipe book. -/
theorem searched_eq (search : Nat) (reply : Reply) (input : Input) {screen : Screen}
    {client : Client} (same : screen.recipes = client.recipes) (idle : screen.mainQueue = []) :
    (runMainQueue (dataTaskCompleted search reply input screen).client).map
        (fun effect => effect.client.recipes) =
      some (searched reply input client).client.recipes := by
  cases reply with
  | data json =>
      cases decoded : Recipe.decodeHits json input.clock with
      | none => simp [dataTaskCompleted, fetchRecipe, searched, runMainQueue, showResult, decoded,
          idle, same]
      | some recipes => simp [dataTaskCompleted, fetchRecipe, searched, runMainQueue, showResult,
          decoded, idle]
  | _ => simp [dataTaskCompleted, fetchRecipe, searched, runMainQueue, showResult, idle, same]

/-! ## Which answer is shown -/

/-- The searches of a client that succeeded, the latest answer first. -/
def successes (client : Nat) (trace : Trace) : List Succeeded :=
  trace.flatMap fun entry => if entry.2.client = client then entry.2.events else []

/-- Every search of the client has been answered and the main queue has run its blocks. -/
def Settled (client : Nat) (s : State) : Prop :=
  (∀ task ∈ s.tasks, task.client ≠ client) ∧ (s.clients client).mainQueue = []

/-- The answer of the most recently issued of the searches. -/
def IsLatest (answer : Succeeded) (answers : List Succeeded) : Prop :=
  answer ∈ answers ∧ ∀ other ∈ answers, other.search ≤ answer.search

/-- The recipes are in `RecipeController.recipes` and in the table. -/
def Shows (screen : Screen) (recipes : List Recipe) : Prop :=
  screen.recipes = recipes ∧ screen.reportedRows = recipes.length

/-- Once every search is answered, the recipes of the most recently issued of those that
succeeded are shown. -/
def ShowsLatest (s₀ : State) : Prop :=
  ∀ trace s client latest, program.Run Program.anyStep s₀ trace s → Settled client s →
    IsLatest latest (successes client trace) → Shows (s.clients client) latest.recipes

/-- The recipes that the blocks on the main queue are about to show. -/
def pending (screen : Screen) : List (List Recipe) :=
  screen.mainQueue.filterMap Except.toOption

/-- The last answer is the last one on the main queue, or the one shown. -/
def ShowsNext (screen : Screen) (answers : List Succeeded) : Prop :=
  ∀ last ∈ answers.head?, (pending screen).getLast? = some last.recipes ∨
    pending screen = [] ∧ Shows screen last.recipes

/-- Running a block shows an answer, or leaves what is shown. -/
theorem ShowsNext.runMainQueue {screen : Screen} {answers : List Succeeded} {effect : Effect}
    (next : ShowsNext screen answers) (ran : runMainQueue screen = some effect) :
    ShowsNext effect.client answers := by
  rw [Searches.runMainQueue] at ran
  split at ran
  · cases ran
  · rename_i result rest queue
    obtain rfl := Option.some.inj ran
    intro last head
    have before := next last head
    cases result with
    | error recipeError =>
        have same : pending screen = rest.filterMap Except.toOption := by
          rw [pending, queue]
          rfl
        rw [same] at before
        exact before
    | ok recipes =>
        have first : pending screen = recipes :: rest.filterMap Except.toOption := by
          rw [pending, queue]
          rfl
        rcases before with lastPending | ⟨nonePending, -⟩
        · rw [first, List.getLast?_cons] at lastPending
          cases others : (rest.filterMap Except.toOption).getLast? with
          | none =>
              rw [others] at lastPending
              obtain rfl := Option.some.inj lastPending
              exact .inr ⟨List.getLast?_eq_none_iff.mp others, rfl, rfl⟩
          | some other =>
              rw [others] at lastPending
              exact .inl (others.trans lastPending)
        · rw [first] at nonePending
          cases nonePending

theorem ShowsNext.dataTaskCompleted {screen : Screen} {answers : List Succeeded}
    (next : ShowsNext screen answers) (search : Nat) (reply : Reply) (input : Input) :
    ShowsNext (dataTaskCompleted search reply input screen).client
      ((dataTaskCompleted search reply input screen).events ++ answers) := by
  rw [Searches.dataTaskCompleted]
  cases fetchRecipe reply input with
  | error recipeError =>
      have same : pending { screen with mainQueue := screen.mainQueue ++ [.error recipeError] } =
          pending screen := by
        rw [pending, List.filterMap_append]
        exact List.append_nil _
      intro last head
      rcases next last head with lastPending | ⟨nonePending, shows⟩
      · exact .inl (by rw [same, lastPending])
      · exact .inr ⟨by rw [same, nonePending], shows⟩
  | ok recipes =>
      rintro last ⟨⟩
      refine .inl ?_
      rw [pending, List.filterMap_append]
      exact List.getLast?_concat

/-- A handler other than that of the main queue leaves the queue, the recipes and the rows. -/
theorem handle_unchanged {action : Action} {screen : Screen} {effect : Effect}
    (handled : handle action screen = some effect) :
    effect.events = [] ∧ (runMainQueue screen = some effect ∨
      effect.client.recipes = screen.recipes ∧ effect.client.mainQueue = screen.mainQueue ∧
        effect.client.reportedRows = screen.reportedRows) := by
  cases action with
  | searchBarSearchButtonClicked searchTerm =>
      obtain rfl := Option.some.inj handled
      rw [searchBarSearchButtonClicked]
      split <;> exact ⟨rfl, .inr ⟨rfl, rfl, rfl⟩⟩
  | runMainQueue =>
      refine ⟨?_, .inl handled⟩
      simp only [handle, runMainQueue] at handled
      split at handled
      · cases handled
      · obtain rfl := Option.some.inj handled
        rfl
  | cellForRowAt row =>
      simp only [handle, cellForRowAt] at handled
      split at handled
      · cases handled
      · obtain rfl := Option.some.inj handled
        exact ⟨rfl, .inr ⟨rfl, rfl, rfl⟩⟩
  | didSelectRowAt row =>
      simp only [handle, didSelectRowAt] at handled
      split at handled
      · cases handled
      · obtain rfl := Option.some.inj handled
        exact ⟨rfl, .inr ⟨rfl, rfl, rfl⟩⟩

/-- **One step keeps the last answer on the main queue or on the screen.** -/
theorem showsNext_step {trace : Trace} {s s' : State} {label : Label} {output : Output}
    (next : ∀ client, ShowsNext (s.clients client) (successes client trace))
    (stepped : program.StepCase s label output s') (client : Nat) :
    ShowsNext (s'.clients client) (successes client ((label, output) :: trace)) := by
  have grows : successes client ((label, output) :: trace) =
      (if output.client = client then output.events else []) ++ successes client trace := rfl
  rw [grows]
  cases stepped with
  | @act actor action effect handled =>
      obtain ⟨events, changes⟩ := handle_unchanged handled
      by_cases same : actor = client
      · subst same
        rw [if_pos rfl, events, RequestReply.State.commit_clients_self]
        rcases changes with ran | ⟨recipes, mainQueue, reportedRows⟩
        · exact (next actor).runMainQueue ran
        · intro last head
          have before := next actor last head
          simp only [pending, Shows] at before ⊢
          rw [recipes, mainQueue, reportedRows]
          exact before
      · rw [if_neg same, RequestReply.State.commit_clients_of_ne s _ _ (Ne.symm same)]
        exact next client
  | serve inFlight waiting => simpa using next client
  | @deliver index input task reply effect inFlight answered resumed =>
      by_cases same : task.client = client
      · subst same
        obtain rfl := Option.some.inj resumed
        rw [if_pos rfl, RequestReply.State.commit_clients_self]
        exact (next task.client).dataTaskCompleted _ reply input
      · rw [if_neg same, RequestReply.State.commit_clients_of_ne s _ _ (Ne.symm same)]
        exact next client

/-- **The recipes of the most recently issued search are shown in the end exactly when the
answer that came last has the same recipes.** -/
theorem shows_latest_iff {s₀ s : State} {trace : Trace} {client : Nat} {latest : Succeeded}
    (run : program.Run Program.anyStep s₀ trace s) (settled : Settled client s)
    (isLatest : IsLatest latest (successes client trace)) :
    Shows (s.clients client) latest.recipes ↔
      ∃ last, (successes client trace).head? = some last ∧ last.recipes = latest.recipes := by
  have next : ∀ client, ShowsNext (s.clients client) (successes client trace) :=
    run.invariant (I := fun trace s => ∀ client, ShowsNext (s.clients client)
      (successes client trace)) (fun _ _ head => by cases head)
      fun next _ stepped => showsNext_step next stepped
  obtain ⟨last, rest, answers⟩ := List.exists_cons_of_ne_nil (List.ne_nil_of_mem isLatest.1)
  have head : (successes client trace).head? = some last := by rw [answers, List.head?_cons]
  have shown : Shows (s.clients client) last.recipes := by
    have drained : pending (s.clients client) = [] := by
      rw [pending, settled.2]
      rfl
    rcases next client last head with lastPending | ⟨-, shows⟩
    · rw [drained] at lastPending
      cases lastPending
    · exact shows
  constructor
  · exact fun shows => ⟨last, head, shown.1.symm.trans shows.1⟩
  · rintro ⟨other, otherHead, same⟩
    obtain rfl := Option.some.inj (head.symm.trans otherHead)
    rwa [← same]

/-- The screen has just been opened. -/
def opened : State where
  clients := fun _ => {}
  server := ()
  tasks := []

/-- The answer of a search with the given hits. -/
def answerWith (hits : List Json) : Fate :=
  .answeredWith (.object [("q", .string "soup"), ("hits", .array hits)])

/-- A hit of the answer. -/
def soupHit : Json :=
  .object [("recipe", .object
    [("label", .string "Soup"), ("url", .string "soup.html"),
      ("ingredientLines", .array [.string "water", .string "salt"]), ("yield", .number 2),
      ("totalTime", .number 30)])]

/-- The recipe that the hit is decoded to. -/
def foundSoup : Recipe where
  label := "Soup"
  image := none
  directions := "soup.html"
  ingredients := ["water", "salt"]
  yield := 2
  totalTime := 30
  uid := none
  isChecked := false
  dateToEat := ⟨0⟩
  authorID := none

instance (client : Nat) (s : State) : Decidable (Settled client s) :=
  inferInstanceAs (Decidable ((∀ task ∈ s.tasks, task.client ≠ client) ∧
    (s.clients client).mainQueue = []))

/-- The second search is the latest, whichever is answered last. -/
theorem isLatest_second {answers : List Succeeded}
    (both : answers = [⟨1, []⟩, ⟨0, [foundSoup]⟩] ∨ answers = [⟨0, [foundSoup]⟩, ⟨1, []⟩]) :
    IsLatest ⟨1, []⟩ answers := by
  rcases both with rfl | rfl <;> simp [IsLatest]

/-- Two searches answered in order: the results of the second one are shown. -/
theorem shows_latest_iff_inOrder :
    ∃ trace s, program.Run Program.anyStep opened trace s ∧ Settled 0 s ∧
      successes 0 trace = [⟨1, []⟩, ⟨0, [foundSoup]⟩] ∧ Shows (s.clients 0) [] := by
  have executed : (program.execute Program.anyStep opened
      [.act 0 (.searchBarSearchButtonClicked "soup"), .act 0 (.searchBarSearchButtonClicked "tea"),
        .serve 0 (answerWith [soupHit]), .serve 1 (answerWith []), .deliver 0 {}, .deliver 0 {},
        .act 0 .runMainQueue, .act 0 .runMainQueue] []).any
        (fun last => decide (Settled 0 last.2) &&
          decide (successes 0 last.1 = [⟨1, []⟩, ⟨0, [foundSoup]⟩])) = true := by
    decide
  obtain ⟨⟨trace, s⟩, followed, last⟩ := (Option.any_eq_true _ _).mp executed
  obtain ⟨settled, answers⟩ := Bool.and_eq_true_iff.mp last
  replace settled := of_decide_eq_true settled
  replace answers := of_decide_eq_true answers
  have run := Program.Run.of_execute .start followed
  refine ⟨trace, s, run, settled, answers, ?_⟩
  exact (shows_latest_iff run settled (isLatest_second (.inl answers))).mpr
    ⟨_, by rw [answers, List.head?_cons], rfl⟩

/-- **Two searches answered the other way round: the results of the first one are shown.** -/
theorem late_answer_shown : ¬ ShowsLatest opened := by
  intro shows
  have executed : (program.execute Program.anyStep opened
      [.act 0 (.searchBarSearchButtonClicked "soup"), .act 0 (.searchBarSearchButtonClicked "tea"),
        .serve 0 (answerWith [soupHit]), .serve 1 (answerWith []), .deliver 1 {}, .deliver 0 {},
        .act 0 .runMainQueue, .act 0 .runMainQueue] []).any
        (fun last => decide (Settled 0 last.2) &&
          decide (successes 0 last.1 = [⟨0, [foundSoup]⟩, ⟨1, []⟩]) &&
          decide ((last.2.clients 0).recipes = [foundSoup])) = true := by
    decide
  obtain ⟨⟨trace, s⟩, followed, last⟩ := (Option.any_eq_true _ _).mp executed
  simp only [Bool.and_eq_true, decide_eq_true_eq] at last
  obtain ⟨⟨settled, answers⟩, recipes⟩ := last
  have latest := shows trace s 0 _ (.of_execute .start followed) settled
    (isLatest_second (.inr answers))
  have none : (s.clients 0).recipes = [] := latest.1
  rw [recipes] at none
  cases none

/-! ## Which rows are in range -/

/-- Every row below the last reported count can be asked for and opened. -/
def RowsInRange (screen : Screen) : Prop :=
  ∀ row < screen.reportedRows,
    (handle (.cellForRowAt row) screen).isSome = true ∧
      (handle (.didSelectRowAt row) screen).isSome = true

/-- No row of a table is out of range in any state that a run reaches. -/
def RowsAlwaysInRange (s₀ : State) : Prop :=
  ∀ trace s, program.Run Program.anyStep s₀ trace s → ∀ client, RowsInRange (s.clients client)

/-- The answer has fewer recipes than the table has rows. -/
def isShort (reply : Reply) (input : Input) (screen : Screen) : Bool :=
  match fetchRecipe reply input with
  | .error _ => false
  | .ok recipes => decide (recipes.length < screen.reportedRows)

/-- No answer arrives with fewer recipes than the table has rows. -/
def NoShortAnswer (_ : Trace) (s : State) : Label → Prop
  | .deliver index input => ∀ task ∈ s.tasks[index]?, ∀ reply ∈ task.reply,
      isShort reply input (s.clients task.client) = false
  | _ => True

instance (trace : Trace) (s : State) (label : Label) :
    Decidable (NoShortAnswer trace s label) :=
  match label with
  | .act _ _ => inferInstanceAs (Decidable True)
  | .serve _ _ => inferInstanceAs (Decidable True)
  | .deliver index input => inferInstanceAs (Decidable (∀ task ∈ s.tasks[index]?,
      ∀ reply ∈ task.reply, isShort reply input (s.clients task.client) = false))

theorem rowsInRange_iff (screen : Screen) :
    RowsInRange screen ↔ screen.reportedRows ≤ screen.recipes.length := by
  constructor
  · intro inRange
    by_contra fewer
    have asked := (inRange screen.recipes.length (by omega)).1
    simp [handle, cellForRowAt] at asked
  · intro enough row below
    have found : screen.recipes[row]? = some screen.recipes[row] :=
      List.getElem?_eq_getElem (Nat.lt_of_lt_of_le below enough)
    simp [handle, cellForRowAt, didSelectRowAt, found]

theorem rowsInRange_handle {action : Action} {screen : Screen} {effect : Effect}
    (inRange : RowsInRange screen) (handled : handle action screen = some effect) :
    RowsInRange effect.client := by
  rw [rowsInRange_iff] at inRange ⊢
  rcases (handle_unchanged handled).2 with ran | ⟨recipes, -, reportedRows⟩
  · rw [runMainQueue] at ran
    split at ran
    · cases ran
    · rename_i result rest queue
      obtain rfl := Option.some.inj ran
      cases result with
      | error recipeError => exact inRange
      | ok recipes => exact Nat.le_refl _
  · rw [recipes, reportedRows]
    exact inRange

/-- An answer keeps the rows in range exactly when it is not short. -/
theorem rowsInRange_dataTaskCompleted {screen : Screen} (inRange : RowsInRange screen)
    (search : Nat) (reply : Reply) (input : Input) :
    RowsInRange (dataTaskCompleted search reply input screen).client ↔
      isShort reply input screen = false := by
  rw [rowsInRange_iff, dataTaskCompleted, isShort]
  rw [rowsInRange_iff] at inRange
  cases fetchRecipe reply input with
  | error recipeError => simpa using inRange
  | ok recipes => simp

/-- **The rows stay in range as long as no short answer arrives, and a short answer puts one out
of range.** -/
theorem rows_in_range {s₀ : State} (opened : ∀ client, RowsInRange (s₀.clients client)) :
    (∀ trace s, program.Run NoShortAnswer s₀ trace s → ∀ client, RowsInRange (s.clients client)) ∧
    ∀ trace s label output s', program.Run NoShortAnswer s₀ trace s →
      program.step s label = some (output, s') → ¬ NoShortAnswer trace s label →
      ∃ client, ¬ RowsInRange (s'.clients client) := by
  have always : ∀ trace s, program.Run NoShortAnswer s₀ trace s →
      ∀ client, RowsInRange (s.clients client) := by
    intro trace s run
    refine run.invariant (I := fun _ s => ∀ client, RowsInRange (s.clients client)) opened ?_
    intro trace s label output s' inRange permitted stepped
    cases stepped with
    | act handled =>
        exact RequestReply.State.forall_clients_commit inRange
          (rowsInRange_handle (inRange _) handled)
    | serve inFlight waiting => exact inRange
    | @deliver index input task reply effect inFlight answered resumed =>
        obtain rfl := Option.some.inj resumed
        exact RequestReply.State.forall_clients_commit inRange
          ((rowsInRange_dataTaskCompleted (inRange _) _ reply input).mpr
            (permitted task inFlight reply answered))
  refine ⟨always, ?_⟩
  intro trace s label output s' run step short
  cases Program.stepCase_of_step step with
  | act handled => exact absurd trivial short
  | serve inFlight waiting => exact absurd trivial short
  | @deliver index input task reply effect inFlight answered resumed =>
      obtain rfl := Option.some.inj resumed
      refine ⟨task.client, fun inRange => short ?_⟩
      rw [RequestReply.State.commit_clients_self] at inRange
      intro other found answer given
      obtain rfl := Option.some.inj (inFlight.symm.trans found)
      obtain rfl := Option.some.inj (answered.symm.trans given)
      exact (rowsInRange_dataTaskCompleted (always trace s run _) _ reply input).mp inRange

theorem opened_rowsInRange (client : Nat) : RowsInRange (opened.clients client) :=
  (rowsInRange_iff _).mpr (Nat.zero_le _)

/-- The rows are in range after an answer that is not short. -/
theorem rows_in_range_longAnswer :
    ∃ trace s, program.Run NoShortAnswer opened trace s ∧ (s.clients 0).reportedRows = 1 ∧
      RowsInRange (s.clients 0) := by
  have executed : (program.execute NoShortAnswer opened
      [.act 0 (.searchBarSearchButtonClicked "soup"), .serve 0 (answerWith [soupHit]),
        .deliver 0 {}, .act 0 .runMainQueue, .act 0 (.searchBarSearchButtonClicked "soup"),
        .serve 0 (answerWith [soupHit, soupHit]), .deliver 0 {}] []).any
        (fun last => decide ((last.2.clients 0).reportedRows = 1)) = true := by
    decide
  obtain ⟨⟨trace, s⟩, followed, last⟩ := (Option.any_eq_true _ _).mp executed
  have run := Program.Run.of_execute .start followed
  exact ⟨trace, s, run, of_decide_eq_true last,
    (rows_in_range opened_rowsInRange).1 trace s run 0⟩

/-- **A row is out of range after a short answer.** -/
theorem short_answer_traps : ¬ RowsAlwaysInRange opened := by
  intro inRange
  have executed : (program.execute Program.anyStep opened
      [.act 0 (.searchBarSearchButtonClicked "soup"), .serve 0 (answerWith [soupHit]),
        .deliver 0 {}, .act 0 .runMainQueue, .act 0 (.searchBarSearchButtonClicked "tea"),
        .serve 0 (answerWith []), .deliver 0 {}] []).any
        (fun last => decide ((last.2.clients 0).reportedRows = 1 ∧
          (last.2.clients 0).recipes = [])) = true := by
    decide
  obtain ⟨⟨trace, s⟩, followed, last⟩ := (Option.any_eq_true _ _).mp executed
  obtain ⟨reportedRows, recipes⟩ := of_decide_eq_true last
  have enough := (rowsInRange_iff _).mp (inRange trace s (.of_execute .start followed) 0)
  rw [reportedRows, recipes] at enough
  exact absurd enough (by decide)

end MyMealPrep.RecipeBook.Searches

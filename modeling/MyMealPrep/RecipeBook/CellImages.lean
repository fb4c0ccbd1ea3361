import MyMealPrep.Machines.MainQueue
import MyMealPrep.RecipeBook.RecipeController

/-!
# The images of reused cells

Three cells show a recipe and ask for its image when the recipe is set. The callback of
the request puts a block on the main queue, which sets the image of the cell, whatever
recipe the cell shows by then. So once everything is delivered, a cell shows the image
of its current recipe exactly when the answer that came last has the same image
(`shows_current_iff`).

A cell counts the recipes that were set, and an answer with an image is an event with
the number of its recipe. The source has no numbers: they say which answer belongs to
which recipe.
-/

set_option autoImplicit false

namespace MyMealPrep.RecipeBook.CellImages

open RecipeController (Platform Response)
open RequestReply (Program)

variable {URL Data Image : Type}

/-! ## The cells -/

/-- What a cell shows of a recipe besides its image. -/
structure Labels where
  texts : List String
  date : Option Date := none
deriving DecidableEq, Repr

/-- The labels that `RecipeBookTableViewCell` sets. -/
def RecipeBookTableViewCell.labels (recipe : Recipe) : Labels where
  texts := [recipe.label, "Servings: " ++ toString recipe.yield,
    if recipe.totalTime = 0 then "Cook Time: N/A" else toString recipe.totalTime ++ " min"]

/-- The labels that `RecipeSelectTableViewCell` sets. -/
def RecipeSelectTableViewCell.labels (recipe : Recipe) : Labels where
  texts := [recipe.label,
    if recipe.totalTime = 0 then "N/A" else "Cook Time: " ++ toString recipe.totalTime ++ " min"]

/-- The label and the date that `MealPlanRecipesTableViewCell` sets. -/
def MealPlanRecipesTableViewCell.labels (recipe : Recipe) : Labels where
  texts := [recipe.label]
  date := some recipe.dateToEat

/-- The three cells. -/
inductive Kind where
  | recipeBook
  | recipeSelect
  | mealPlanRecipes
deriving DecidableEq, Repr

/-- What a cell of each kind shows. -/
def Kind.labels : Kind → Recipe → Labels
  | recipeBook => RecipeBookTableViewCell.labels
  | recipeSelect => RecipeSelectTableViewCell.labels
  | mealPlanRecipes => MealPlanRecipesTableViewCell.labels

/-- The callback of an image request, with the number of the recipe. -/
structure Continuation where
  assignment : Nat
deriving DecidableEq, Repr

/-- What the table and the main queue do. -/
inductive Action where
  | setRecipe (recipe : Recipe)
  | runMainQueue
deriving DecidableEq, Repr

/-- An image request has succeeded. -/
structure Succeeded (Image : Type) where
  assignment : Nat
  image : Image
deriving DecidableEq, Repr

/-- A cell, with its blocks on the main queue and the number of the next recipe. -/
structure Cell (Image : Type) where
  recipe : Option Recipe := none
  labels : Option Labels := none
  image : Option Image := none
  mainQueue : List Image := []
  nextAssignment : Nat := 0

abbrev Effect (URL Image : Type) :=
  RequestReply.Effect (Cell Image) URL Continuation (Succeeded Image)
abbrev State (URL Data Image : Type) :=
  RequestReply.State (Cell Image) Unit URL (Response Data) Continuation
abbrev Label (Data : Type) := RequestReply.Label Action Unit (Response Data)
abbrev Output (URL Image : Type) := RequestReply.Output URL Continuation (Succeeded Image)
abbrev Trace (URL Data Image : Type) :=
  RequestReply.Trace URL Continuation Action Unit (Response Data) (Succeeded Image)

section

variable (platform : Platform URL Data Image) (kind : Kind)

/-- `recipe`, with its `didSet`. -/
def setRecipe (recipe : Recipe) (cell : Cell Image) : Effect URL Image where
  client := { cell with
    recipe := some recipe
    labels := some (kind.labels recipe)
    nextAssignment := cell.nextAssignment + 1 }
  requests := (platform.url (recipe.image.getD "()")).toList.map fun recipeImageURL =>
    (recipeImageURL, ⟨cell.nextAssignment⟩)

/-- The main queue runs its first block. -/
def runMainQueue (cell : Cell Image) : Option (Effect URL Image) :=
  match cell.mainQueue with
  | [] => none
  | image :: rest => some { client := { cell with image := some image, mainQueue := rest } }

/-- The images with which the callback of `fetchImage` calls its handler. -/
def imagesFetched (response : Response Data) : List Image :=
  (Operation.execute (fun _ => response)
    (RecipeController.imageAnswered platform response)).completions.filterMap Except.toOption

/-- The handler of `fetchImage` puts a block on the main queue where it gets an image. -/
def imageFetched (assignment : Nat) (response : Response Data) (cell : Cell Image) :
    Effect URL Image where
  client := { cell with mainQueue := cell.mainQueue ++ imagesFetched platform response }
  events := (imagesFetched platform response).map (⟨assignment, ·⟩)

/-- The handler of an action. -/
def handle (action : Action) (cell : Cell Image) : Option (Effect URL Image) :=
  match action with
  | .setRecipe recipe => some (setRecipe platform kind recipe cell)
  | .runMainQueue => runMainQueue cell

/-- Any number of cells of a kind. -/
def program : Program (Cell Image) Unit URL (Response Data) Continuation Action Unit
    (Response Data) (Succeeded Image) where
  handle := handle platform kind
  resume continuation response _ cell :=
    some (imageFetched platform continuation.assignment response cell)
  serve response _ _ := ((), response)

end

/-! ## The property -/

/-- New cells. -/
def newCells : State URL Data Image where
  clients := fun _ => {}
  server := ()
  tasks := []

/-- The image requests of a cell that succeeded, the latest answer first. -/
def successes (cell : Nat) (trace : Trace URL Data Image) : List (Succeeded Image) :=
  trace.flatMap fun entry => if entry.2.client = cell then entry.2.events.reverse else []

/-- Every request of the cell has been answered and its blocks have run. -/
def Settled (cell : Nat) (s : State URL Data Image) : Prop :=
  (∀ task ∈ s.tasks, task.client ≠ cell) ∧ (s.clients cell).mainQueue = []

/-- The answer is for the recipe that was set last. -/
def IsCurrent (answer : Succeeded Image) (cell : Cell Image) : Prop :=
  answer.assignment + 1 = cell.nextAssignment

/-- Once everything is delivered, a cell whose current recipe has an image shows that image. -/
def ShowsCurrent (platform : Platform URL Data Image) (kind : Kind) : Prop :=
  ∀ trace s cell, (program platform kind).Run Program.anyStep newCells trace s → Settled cell s →
    ∀ current ∈ successes cell trace, IsCurrent current (s.clients cell) →
      (s.clients cell).image = some current.image

/-! ## Which image is shown -/

variable {platform : Platform URL Data Image} {kind : Kind}

/-- A cell asks for the images that `fetchImage` asks for. -/
theorem setRecipe_requests (recipe : Recipe) (cell : Cell Image)
    (answer : URL → Response Data) :
    (setRecipe platform kind recipe cell).requests.map Prod.fst =
      Operation.requests answer (RecipeController.fetchImage platform recipe) := by
  have none (data : Option Data) :
      Operation.requests answer (RecipeController.imageOfData platform data) = [] := by
    cases data with
    | none => rfl
    | some data =>
        rw [RecipeController.imageOfData]
        cases platform.image data <;> rfl
  rw [setRecipe, RecipeController.fetchImage]
  cases platform.url (recipe.image.getD "()") with
  | none => rfl
  | some recipeImageURL =>
      simp only [Operation.requests, RecipeController.imageAnswered]
      cases (answer recipeImageURL).error with
      | none => simp [none]
      | some error => simp [none, Operation.requests]

/-- The image that a cell has once its blocks have run is that of the last answer. -/
def Follows (trace : Trace URL Data Image) (s : State URL Data Image) : Prop :=
  ∀ cell, MainQueue.drained (s.clients cell).image (s.clients cell).mainQueue =
    (successes cell trace).head?.map Succeeded.image

/-- A cell does what it does to the queue: a recipe leaves it, a block leaves what it will show. -/
theorem drained_handle {action : Action} {cell : Cell Image} {effect : Effect URL Image}
    (handled : handle platform kind action cell = some effect) :
    effect.events = [] ∧ MainQueue.drained effect.client.image effect.client.mainQueue =
      MainQueue.drained cell.image cell.mainQueue := by
  cases action with
  | setRecipe recipe =>
      obtain rfl := Option.some.inj handled
      exact ⟨rfl, rfl⟩
  | runMainQueue =>
      simp only [handle, runMainQueue] at handled
      split at handled
      · cases handled
      · rename_i image rest queue
        obtain rfl := Option.some.inj handled
        refine ⟨rfl, ?_⟩
        rw [queue]
        exact MainQueue.drained_run cell.image image rest

/-- **One step keeps the image of the last answer on the main queue or in the cell.** -/
theorem follows_step {trace : Trace URL Data Image} {s s' : State URL Data Image}
    {label : Label Data} {output : Output URL Image} (follows : Follows trace s)
    (stepped : (program platform kind).StepCase s label output s') :
    Follows ((label, output) :: trace) s' := by
  intro cell
  have grows : successes cell ((label, output) :: trace) =
      (if output.client = cell then output.events.reverse else []) ++ successes cell trace := rfl
  rw [grows]
  cases stepped with
  | @act actor action effect handled =>
      obtain ⟨events, drained⟩ := drained_handle handled
      by_cases same : actor = cell
      · subst same
        rw [if_pos rfl, events, RequestReply.State.commit_clients_self, drained]
        exact follows actor
      · rw [if_neg same, RequestReply.State.commit_clients_of_ne s _ _ (Ne.symm same)]
        exact follows cell
  | serve inFlight waiting => simpa using follows cell
  | @deliver index input task response effect inFlight answered resumed =>
      by_cases same : task.client = cell
      · subst same
        obtain rfl := Option.some.inj resumed
        rw [if_pos rfl, RequestReply.State.commit_clients_self, imageFetched,
          MainQueue.drained_append, follows task.client, List.head?_append, List.head?_reverse,
          List.getLast?_map, Option.map_or, Option.map_map]
        exact congrArg (Option.or · _) Option.map_id_apply.symm
      · rw [if_neg same, RequestReply.State.commit_clients_of_ne s _ _ (Ne.symm same)]
        exact follows cell

/-- **A cell shows the image of its current recipe in the end exactly when the answer that came
last has the same image.** -/
theorem shows_current_iff {trace : Trace URL Data Image} {s : State URL Data Image} {cell : Nat}
    (run : (program platform kind).Run Program.anyStep newCells trace s)
    (settled : Settled cell s) :
    ∀ current ∈ successes cell trace, IsCurrent current (s.clients cell) →
      ((s.clients cell).image = some current.image ↔
        ∃ last, (successes cell trace).head? = some last ∧ last.image = current.image) := by
  intro current _ _
  have follows : Follows trace s :=
    run.invariant (fun _ => rfl) fun follows _ stepped => follows_step follows stepped
  have shown := follows cell
  rw [settled.2, MainQueue.drained_nil] at shown
  rw [shown, Option.map_eq_some_iff]

/-! ## Two recipes in one cell -/

/-- A platform whose URLs, data and images are names. -/
def named : Platform String String String where
  searchURL := some
  url := some
  json _ := none
  image := some

/-- A recipe with an image. -/
def pictured (image : String) : Recipe :=
  { Searches.foundSoup with image := some image }

instance (cell : Nat) (s : State URL Data Image) : Decidable (Settled cell s) :=
  inferInstanceAs (Decidable ((∀ task ∈ s.tasks, task.client ≠ cell) ∧
    (s.clients cell).mainQueue = []))

/-- Two recipes are set in a cell and their requests are answered, with the positions at which the
answers are delivered. -/
def reuse (first second : Nat) : List (Label String) :=
  [.act 0 (.setRecipe (pictured "soup.png")), .act 0 (.setRecipe (pictured "tea.png")),
    .serve 0 { data := some "soup" }, .serve 1 { data := some "tea" }, .deliver first (),
    .deliver second (), .act 0 .runMainQueue, .act 0 .runMainQueue]

/-- In order, the image of the second recipe is shown. -/
theorem shows_current_iff_inOrder :
    ∃ trace s, (program named .recipeBook).Run Program.anyStep newCells trace s ∧ Settled 0 s ∧
      successes 0 trace = [⟨1, "tea"⟩, ⟨0, "soup"⟩] ∧ (s.clients 0).image = some "tea" := by
  have executed : ((program named .recipeBook).execute Program.anyStep newCells
      (reuse 0 0) []).any (fun last => decide (Settled 0 last.2 ∧
        successes 0 last.1 = [⟨1, "tea"⟩, ⟨0, "soup"⟩] ∧
        (last.2.clients 0).nextAssignment = 2)) = true := by
    decide
  obtain ⟨⟨trace, s⟩, followed, last⟩ := (Option.any_eq_true _ _).mp executed
  obtain ⟨settled, answers, nextAssignment⟩ := of_decide_eq_true last
  have run := Program.Run.of_execute .start followed
  refine ⟨trace, s, run, settled, answers, ?_⟩
  refine (shows_current_iff run settled ⟨1, "tea"⟩ ?_ nextAssignment.symm).mpr ⟨_, ?_, rfl⟩
  · rw [answers]
    exact List.mem_cons_self
  · rw [answers, List.head?_cons]

/-- **The other way round, the cell shows the image of the recipe before.** -/
theorem late_image_shown : ¬ ShowsCurrent named .recipeBook := by
  intro shows
  have executed : ((program named .recipeBook).execute Program.anyStep newCells
      (reuse 1 0) []).any (fun last => decide (Settled 0 last.2 ∧
        successes 0 last.1 = [⟨0, "soup"⟩, ⟨1, "tea"⟩] ∧
        (last.2.clients 0).nextAssignment = 2 ∧
        (last.2.clients 0).image = some "soup")) = true := by
    decide
  obtain ⟨⟨trace, s⟩, followed, last⟩ := (Option.any_eq_true _ _).mp executed
  obtain ⟨settled, answers, nextAssignment, image⟩ := of_decide_eq_true last
  have current := shows trace s 0 (.of_execute .start followed) settled ⟨1, "tea"⟩
    (by rw [answers]; exact List.mem_cons_of_mem _ List.mem_cons_self) nextAssignment.symm
  rw [image] at current
  exact absurd current (by decide)

end MyMealPrep.RecipeBook.CellImages

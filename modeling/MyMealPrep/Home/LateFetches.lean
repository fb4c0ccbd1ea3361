import MyMealPrep.MealPlans.LateFetches
import MyMealPrep.MealPlans.SwipeDeletes
import MyMealPrep.RecipeBook.LateFetches
import MyMealPrep.RecipeBook.SwipeDeletes

/-!
# What is added while the home screen loads

`loadUserData` fetches the recipes and the meal plans of the user. The callbacks put
the contents of a snapshot in the place of what the user has meanwhile added.

An addition is kept as long as no other fetch is started and the snapshots delivered
list it, and a step that does not spare it loses it (`additions_survive_fetches`).
-/

set_option autoImplicit false

namespace MyMealPrep.Home

open RequestReply (Program)

/-- Recipes added and plans created while a fetch is in flight are kept by its callback, in the
runs whose steps are allowed. -/
def AdditionsKept (platform : MealPlans.Platform)
    (recipeAllowed : Nat → Recipe → RecipeBook.State → RecipeBook.Label → Prop)
    (planAllowed : Nat → Ref → MealPlans.State → MealPlans.Label → Prop)
    (books : RecipeBook.State) (plans : MealPlans.State) : Prop :=
  RecipeBook.KeepsAddedRecipes platform.texts recipeAllowed books ∧
    MealPlans.KeepsCreatedPlans platform planAllowed plans

/-- **Additions are kept by the steps that spare them, and lost by a step that does not.** -/
theorem additions_survive_fetches {platform : MealPlans.Platform} (books : RecipeBook.State)
    {plans : MealPlans.State} (referenced : MealPlans.AllReferenced plans) :
    AdditionsKept platform (RecipeBook.RecipeSpared platform.texts) MealPlans.PlanSpared books
      plans ∧
    (∀ s label output s' client recipe,
      (RecipeBook.program platform.texts).step s label = some (output, s') →
      RecipeBook.InBook platform.texts (s.clients client) recipe →
      ¬ RecipeBook.DeletesRecipe platform.texts client recipe s label →
      ¬ RecipeBook.RecipeSpared platform.texts client recipe s label →
      ¬ RecipeBook.InBook platform.texts (s'.clients client) recipe) ∧
    ∀ trace s label output s' client ref,
      (MealPlans.program platform).Run Program.anyStep plans trace s →
      (MealPlans.program platform).step s label = some (output, s') →
      MealPlans.InList (s.clients client) ref → ¬ MealPlans.FetchSpares client ref s label →
      ¬ MealPlans.InList (s'.clients client) ref := by
  refine ⟨⟨RecipeBook.keepsAddedRecipes books, MealPlans.keepsCreatedPlans referenced⟩, ?_, ?_⟩
  · intro s label output s' client recipe step inBook notDeleted notSpared after
    exact notSpared ((RecipeBook.inBook_step_iff inBook (Program.stepCase_of_step step)
      notDeleted).mp after)
  · intro trace s label output s' client ref run step inList notSpared after
    have known := referenced.run run client
    exact notSpared (MealPlans.fetchSpares_of_inList known (inList.readable known)
      (Program.stepCase_of_step step) after)

/-! ## One recipe and one plan -/

/-- A client whose user has saved nothing. -/
def emptyBook : RecipeBook.State where
  clients := fun _ => { currentUser := some RecipeBook.ann }
  server := ∅
  tasks := []

/-- A client whose user has created nothing. -/
def emptyList : MealPlans.State where
  clients := fun _ => { currentUser := some MealPlans.ann }
  server := ∅
  tasks := []

theorem emptyList_referenced (client : Nat) : MealPlans.Referenced (emptyList.clients client) where
  saved _ member := absurd member List.not_mem_nil
  listed _ member := absurd member List.not_mem_nil
  planned _ _ read := by cases read
  selected _ shown := by cases shown

/-- A fetch is started, and a recipe is searched and opened before it ends. -/
def openRecipe : List RecipeBook.Label :=
  [.act 0 .loadUserData, .act 0 (.searchBarSearchButtonClicked "soup"),
    .serve 1 (.answeredWith RecipeBook.searchAnswer), .deliver 1 {}, .act 0 (.didSelectRowAt 0)]

/-- A plan of one day is created. -/
def createPlan : MealPlans.Action :=
  .selectRecipeButtonTapped ⟨0⟩ ⟨MealPlans.oneDay⟩ "P1" fun _ => ⟨0⟩

/-- A recipe and a plan whose documents are written before the snapshot is taken are kept. -/
theorem additions_survive_fetches_written :
    (∃ trace served output final recipe,
      (RecipeBook.program .codePoints).Run Program.anyStep emptyBook trace served ∧
      (RecipeBook.program .codePoints).step served (.deliver 0 {}) = some (output, final) ∧
      RecipeBook.InBook .codePoints (final.clients 0) recipe) ∧
    ∃ trace served output final ref,
      (MealPlans.program MealPlans.greenwich).Run Program.anyStep emptyList trace served ∧
      (MealPlans.program MealPlans.greenwich).step served (.deliver 0 ()) = some (output, final) ∧
      MealPlans.InList (final.clients 0) ref := by
  have kept : AdditionsKept MealPlans.greenwich (RecipeBook.RecipeSpared .codePoints)
      MealPlans.PlanSpared emptyBook emptyList :=
    (additions_survive_fetches emptyBook emptyList_referenced).1
  obtain ⟨keepsRecipes, keepsPlans⟩ := kept
  constructor
  · have executed : (((RecipeBook.program .codePoints).execute Program.anyStep emptyBook
        openRecipe []).any
        fun last => last.2.tasks[0]?.any fun task => (last.2.clients 0).selected.any fun recipe =>
        ((RecipeBook.program .codePoints).step last.2
          (.act 0 (.addToRecipeBookButtonTapped "R1"))).any
        fun added => ((RecipeBook.program .codePoints).step added.2 (.serve 1 .answered)).any
        fun saved => ((RecipeBook.program .codePoints).step saved.2 (.serve 0 .answered)).any
        fun served => ((RecipeBook.program .codePoints).step served.2 (.deliver 0 {})).any
        fun _ => served.2.tasks[0]?.any fun answered => answered.reply.any fun reply =>
        reply.snapshot.any fun snapshot =>
          decide (task.client = 0 ∧ task.continuation = .recipesLoaded ∧
            RecipeBook.ListsRecipe .codePoints (served.2.clients 0).currentUser recipe
              snapshot)) = true := by
      decide
    simp only [Option.any_eq_true, Prod.exists, decide_eq_true_eq] at executed
    obtain ⟨trace, s, followed, ⟨client, request, continuation, reply⟩, inFlight, recipe, selected,
      _, added, adds, _, saved, saves, _, served, serves, output, final, delivers, answered, found,
      delivered, replied, snapshot, documents, rfl, rfl, lists⟩ := executed
    have run := Program.Run.of_execute .start followed
    have servedRun := ((run.step trivial adds).step trivial saves).step trivial serves
    have spared : RecipeBook.RecipeSpared .codePoints 0 recipe served (.deliver 0 {}) :=
      RecipeBook.recipeSpared_of_lists found replied documents lists
    have serving (s : RecipeBook.State) (index : Nat) :
        RecipeBook.RecipeSpared .codePoints 0 recipe s (.serve index .answered) ∧
          ¬ RecipeBook.DeletesRecipe .codePoints 0 recipe s (.serve index .answered) :=
      ⟨trivial, id⟩
    exact ⟨_, served, output, final, recipe, servedRun, delivers,
      keepsRecipes trace s 0 _ "R1" recipe _ added _ served 0 {} output final run inFlight rfl
        selected adds (.step (.step .start (serving _ _) saves rfl) (serving _ _) serves rfl)
        spared delivers⟩
  · have executed : (((MealPlans.program MealPlans.greenwich).execute Program.anyStep emptyList
        [.act 0 .fetchMealPlans] []).any
        fun last => last.2.tasks[0]?.any fun task =>
        ((MealPlans.program MealPlans.greenwich).step last.2 (.act 0 createPlan)).any
        fun created => (created.2.clients 0).mealPlans.getLast?.any fun ref =>
        ((MealPlans.program MealPlans.greenwich).step created.2
          (.act 0 (.saveRecipesButtonTapped "D1" fun _ => "R1"))).any
        fun saved => ((MealPlans.program MealPlans.greenwich).step saved.2
          (.serve 1 .answered)).any
        fun written => ((MealPlans.program MealPlans.greenwich).step written.2
          (.serve 0 .answered)).any
        fun served => ((MealPlans.program MealPlans.greenwich).step served.2 (.deliver 0 ())).any
        fun _ => served.2.tasks[0]?.any fun answered => answered.reply.any fun reply =>
        reply.snapshot.any fun snapshot =>
          decide (task.client = 0 ∧ task.continuation = .mealPlansLoaded ∧
            ref ∈ (created.2.clients 0).mealPlans ∧
              MealPlans.ListsPlan (served.2.clients 0).currentUser
                (MealPlans.planContent (served.2.clients 0) ref) snapshot)) = true := by
      decide
    simp only [Option.any_eq_true, Prod.exists, decide_eq_true_eq] at executed
    obtain ⟨trace, s, followed, ⟨client, request, continuation, reply⟩, inFlight, _, created,
      creates, ref, last, _, saved, saves, _, written, writes, _, served, serves, output, final,
      delivers, answered, found, delivered, replied, snapshot, documents, rfl, rfl, member,
      lists⟩ := executed
    have run := Program.Run.of_execute .start followed
    have servedRun := (((run.step trivial creates).step trivial saves).step trivial
      writes).step trivial serves
    have spared : MealPlans.PlanSpared 0 ref served (.deliver 0 ()) :=
      MealPlans.planSpared_of_lists found replied documents lists
    have saving : MealPlans.PlanSpared 0 ref created
        (.act 0 (.saveRecipesButtonTapped "D1" fun _ => "R1")) ∧
          ¬ MealPlans.Deletes MealPlans.greenwich.texts 0 ref created
            (.act 0 (.saveRecipesButtonTapped "D1" fun _ => "R1")) := by
      refine ⟨⟨trivial, fun _ _ _ => member⟩, ?_⟩
      rintro ⟨action, acts, deletes⟩
      obtain ⟨-, rfl⟩ := RequestReply.Label.act.inj acts
      exact deletes
    have serving := MealPlans.planSpared_serve MealPlans.greenwich.texts 0 ref
    exact ⟨_, served, output, final, ref, servedRun, delivers,
      keepsPlans trace s 0 _ ⟨0⟩ ⟨MealPlans.oneDay⟩ "P1" (fun _ => ⟨0⟩) _ created ref _ served 0
        output final run inFlight rfl (by decide) creates last
        (.step (.step (.step .start saving saves rfl) (serving _ _ _) writes rfl)
          (serving _ _ _) serves rfl) spared delivers⟩

/-- **A recipe and a plan are lost when the snapshot is older than they are.** -/
theorem old_snapshot_loses_additions :
    ¬ RecipeBook.KeepsAddedRecipes .codePoints (fun _ _ _ _ => True) emptyBook ∧
    ¬ MealPlans.KeepsCreatedPlans MealPlans.greenwich (fun _ _ _ _ => True) emptyList := by
  constructor
  · intro keeps
    have executed : (((RecipeBook.program .codePoints).execute Program.anyStep emptyBook
        (openRecipe ++ [.serve 0 .answered]) []).any
        fun last => last.2.tasks[0]?.any fun task => (last.2.clients 0).selected.any fun recipe =>
        ((RecipeBook.program .codePoints).step last.2
          (.act 0 (.addToRecipeBookButtonTapped "R1"))).any
        fun added => ((RecipeBook.program .codePoints).step added.2 (.deliver 0 {})).any
        fun final => decide (task.client = 0 ∧ task.continuation = .recipesLoaded ∧
          (final.2.clients 0).savedRecipes = [])) = true := by
      decide
    simp only [Option.any_eq_true, Prod.exists, decide_eq_true_eq] at executed
    obtain ⟨trace, s, followed, ⟨client, request, continuation, reply⟩, inFlight, recipe, selected,
      _, added, adds, output, final, delivers, rfl, rfl, empty⟩ := executed
    obtain ⟨saved, member, -⟩ := keeps trace s 0 _ "R1" recipe _ added _ added 0 {} output final
      (.of_execute .start followed) inFlight rfl selected adds .start trivial delivers
    rw [empty] at member
    cases member
  · intro keeps
    have executed : (((MealPlans.program MealPlans.greenwich).execute Program.anyStep emptyList
        [.act 0 .fetchMealPlans, .serve 0 .answered] []).any
        fun last => last.2.tasks[0]?.any fun task =>
        ((MealPlans.program MealPlans.greenwich).step last.2 (.act 0 createPlan)).any
        fun created => (created.2.clients 0).mealPlans.getLast?.any fun _ =>
        ((MealPlans.program MealPlans.greenwich).step created.2 (.deliver 0 ())).any
        fun final => decide (task.client = 0 ∧ task.continuation = .mealPlansLoaded ∧
          (final.2.clients 0).mealPlans = [])) = true := by
      decide
    simp only [Option.any_eq_true, Prod.exists, decide_eq_true_eq] at executed
    obtain ⟨trace, s, followed, ⟨client, request, continuation, reply⟩, inFlight, _, created,
      creates, ref, last, output, final, delivers, rfl, rfl, empty⟩ := executed
    obtain ⟨listed, member, -⟩ := keeps trace s 0 _ ⟨0⟩ ⟨MealPlans.oneDay⟩ "P1" (fun _ => ⟨0⟩) _
      created ref _ created 0 output final (.of_execute .start followed) inFlight rfl (by decide)
      creates last .start trivial delivers
    rw [empty] at member
    cases member

end MyMealPrep.Home

import MyMealPrep.Collections.Toggles
import MyMealPrep.MealPlans.References
import MyMealPrep.MealPlans.SwipeDeletes

/-!
# Check marks and selections

A selection screen keeps the recipes checked on it, and the recipes keep a check mark
of their own, which the cells show. The screen starts with no recipe checked; the
recipes outlive it with their check marks. So in the next session a recipe may be
checked without being selected, and a tap on its check box does nothing.

Check marks and selections agree, and every tap changes the selection, as long as a
selection screen is opened only when no recipe of the book is checked
(`checkMarks_agree`).
-/

set_option autoImplicit false

namespace MyMealPrep.MealPlans

open RequestReply (Program)

variable {platform : Platform}

/-! ## The property -/

/-- The recipe behind a reference has a check mark. -/
def isChecked (client : Client) (ref : Ref) : Bool :=
  (client.recipes.read ref).any Recipe.isChecked

/-- The recipes of the book with a check mark are those checked on the screen. -/
def Agrees (client : Client) (selection : Selection) : Prop :=
  ∀ ref ∈ client.savedRecipes, isChecked client ref = true ↔ ref ∈ selection.checkedRecipes

/-- A tap on the check box of any row shown changes whether its recipe is checked on the screen,
once its block runs. -/
def TapsChange (texts : TextEquality) (client : Client) (selection : Selection) : Prop :=
  ∀ (row : Nat) (ref : Ref), selection.recipeSearchArray[row]? = some ref →
    ∃ after, (checkBoxBlock texts ref client).client.selection = some after ∧
      (ref ∈ after.checkedRecipes ↔ ref ∉ selection.checkedRecipes)

/-- In every state that a run reaches, the check marks agree with the selection shown, and taps
change it. -/
def CheckMarksAgree (platform : Platform) (s₀ : State) : Prop :=
  ∀ trace s, (program platform).Run Program.anyStep s₀ trace s → ∀ client,
    ∀ selection ∈ (s.clients client).selection,
      Agrees (s.clients client) selection ∧
        TapsChange platform.texts (s.clients client) selection

/-- The client whose selection screen an action opens. -/
def opensSelection : Label → Option Nat
  | .act client (.selectRecipeButtonTapped startDate endDate _ _) =>
      if startDate.nanoseconds < endDate.nanoseconds then some client else none
  | _ => none

/-- A selection screen is opened only when no recipe of the book has a check mark. -/
def OpensUnchecked (_ : Trace) (s : State) (label : Label) : Prop :=
  ∀ client ∈ opensSelection label, ∀ ref ∈ (s.clients client).savedRecipes,
    isChecked (s.clients client) ref = false

instance (trace : Trace) (s : State) (label : Label) : Decidable (OpensUnchecked trace s label) :=
  inferInstanceAs (Decidable (∀ client ∈ opensSelection label,
    ∀ ref ∈ (s.clients client).savedRecipes, isChecked (s.clients client) ref = false))

/-! ## The invariant -/

/-- A recipe as `==` compares it, but for its check mark. -/
def uncheckedRecipe (texts : TextEquality) (client : Client) (ref : Ref) : Option Recipe :=
  (client.recipeValue texts ref).map fun recipe => { recipe with isChecked := false }

/-- The recipes of the book differ in a field other than the check mark. -/
def DistinctRecipes (texts : TextEquality) (client : Client) : Prop :=
  ∀ first ∈ client.savedRecipes, ∀ second ∈ client.savedRecipes,
    uncheckedRecipe texts client first = uncheckedRecipe texts client second → first = second

/-- The recipes differ, and those checked on a screen are those with a check mark, each once. -/
structure SelectionKept (texts : TextEquality) (client : Client) : Prop where
  referenced : Referenced client
  distinct : DistinctRecipes texts client
  agrees : ∀ selection ∈ client.selection, Agrees client selection
  once : ∀ selection ∈ client.selection, selection.checkedRecipes.Nodup

section

variable {texts : TextEquality} {client changed : Client} {selection : Selection} {ref : Ref}
  {recipe : Recipe}

/-- The recipes of the book differ as long as they change in nothing but their check marks. -/
theorem DistinctRecipes.congr (distinct : DistinctRecipes texts client)
    (savedRecipes : changed.savedRecipes = client.savedRecipes)
    (unchecked : ∀ ref ∈ client.savedRecipes,
      uncheckedRecipe texts changed ref = uncheckedRecipe texts client ref) :
    DistinctRecipes texts changed := by
  intro first firstMember second secondMember same
  rw [savedRecipes] at firstMember secondMember
  rw [unchecked first firstMember, unchecked second secondMember] at same
  exact distinct first firstMember second secondMember same

theorem uncheckedRecipe_modify (mark : Bool)
    (recipes : changed.recipes = client.recipes.modify ref fun recipe =>
      { recipe with isChecked := mark }) (other : Ref) :
    uncheckedRecipe texts changed other = uncheckedRecipe texts client other := by
  rw [uncheckedRecipe, uncheckedRecipe, Client.recipeValue, Client.recipeValue, recipes,
    Heap.read_modify]
  split
  · rw [Option.map_map, Option.map_map, Option.map_map]
    rfl
  · rfl

theorem isChecked_modify (mark : Bool)
    (recipes : changed.recipes = client.recipes.modify ref fun recipe =>
      { recipe with isChecked := mark }) (read : client.recipes.read ref = some recipe)
    (other : Ref) :
    isChecked changed other = if ref = other then mark else isChecked client other := by
  rw [isChecked, isChecked, recipes, Heap.read_modify]
  split
  · rename_i same
    rw [← same, read]
    rfl
  · rfl

/-- The recipe that a tap on a checked one takes off the screen is the recipe tapped. -/
theorem checkedRecipes_get (kept : SelectionKept texts client)
    (shown : client.selection = some selection) (saved : ref ∈ client.savedRecipes)
    (read : client.recipes.read ref = some recipe) {index : Nat}
    (first : (selection.checkedRecipes.findIdx? fun other =>
      client.recipeValue texts other = some (recipe.compared texts)) = some index) :
    selection.checkedRecipes[index]? = some ref := by
  obtain ⟨inRange, equal, -⟩ := List.findIdx?_eq_some_iff_getElem.mp first
  have member : selection.checkedRecipes[index] ∈ client.savedRecipes :=
    (kept.referenced.selected selection shown).checked (List.getElem_mem inRange)
  have sameRecipe : selection.checkedRecipes[index] = ref := by
    refine kept.distinct _ member _ saved ?_
    rw [uncheckedRecipe, uncheckedRecipe, of_decide_eq_true equal, Client.recipeValue, read]
    rfl
  rw [List.getElem?_eq_getElem inRange, sameRecipe]

/-! ## Taps -/

/-- Checking a recipe gives it a check mark and puts it on the screen. -/
theorem SelectionKept.check (kept : SelectionKept texts client)
    (shown : client.selection = some selection) (saved : ref ∈ client.savedRecipes)
    (read : client.recipes.read ref = some recipe) (unchecked : recipe.isChecked = false) :
    SelectionKept texts { client with
      recipes := client.recipes.modify ref fun recipe => { recipe with isChecked := true }
      selection := some { selection with
        checkedRecipes := selection.checkedRecipes ++ [ref] } } := by
  have new : ref ∉ selection.checkedRecipes := by
    rw [← kept.agrees selection shown ref saved, isChecked, read]
    simp [unchecked]
  have toggled : ToggleCase texts ref client selection _ := .checked read unchecked
  refine ⟨kept.referenced.toggle shown saved toggled, ?_, ?_, ?_⟩
  · exact kept.distinct.congr rfl fun other _ => uncheckedRecipe_modify true rfl other
  · rintro _ ⟨⟩ other member
    rw [isChecked_modify true rfl read, List.mem_append, List.mem_singleton]
    by_cases same : ref = other
    · simp [same]
    · rw [if_neg same, kept.agrees selection shown other member, or_iff_left (Ne.symm same)]
  · rintro _ ⟨⟩
    refine List.nodup_append.mpr ⟨kept.once selection shown, List.nodup_singleton _, ?_⟩
    rintro other member _ last rfl
    exact new (List.mem_singleton.mp last ▸ member)

/-- Unchecking a recipe takes its check mark and takes it off the screen. -/
theorem SelectionKept.uncheck (kept : SelectionKept texts client)
    (shown : client.selection = some selection) (saved : ref ∈ client.savedRecipes)
    (read : client.recipes.read ref = some recipe) (checked : recipe.isChecked = true) {index : Nat}
    (first : (selection.checkedRecipes.findIdx? fun other =>
      client.recipeValue texts other = some (recipe.compared texts)) = some index) :
    SelectionKept texts { client with
      recipes := client.recipes.modify ref fun recipe => { recipe with isChecked := false }
      selection := some { selection with
        checkedRecipes := selection.checkedRecipes.eraseIdx index } } := by
  have found := checkedRecipes_get kept shown saved read first
  have once := kept.once selection shown
  refine ⟨kept.referenced.toggle shown saved (.unchecked read checked first), ?_, ?_, ?_⟩
  · exact kept.distinct.congr rfl fun other _ => uncheckedRecipe_modify false rfl other
  · rintro _ ⟨⟩ other member
    rw [isChecked_modify false rfl read, ← Toggles.toggle_eq_eraseIdx once found,
      Toggles.mem_toggle_iff once]
    by_cases same : ref = other
    · rw [if_pos same, if_pos same.symm]
      exact iff_of_false Bool.false_ne_true (not_not_intro (List.mem_of_getElem? found))
    · rw [if_neg same, if_neg (Ne.symm same), kept.agrees selection shown other member]
  · rintro _ ⟨⟩
    exact once.sublist (List.eraseIdx_sublist _ _)

theorem SelectionKept.toggle {effect : Effect} (kept : SelectionKept texts client)
    (shown : client.selection = some selection) (saved : ref ∈ client.savedRecipes)
    (toggled : ToggleCase texts ref client selection effect) :
    SelectionKept texts effect.client := by
  cases toggled with
  | idle => exact kept
  | checked read unchecked => exact kept.check shown saved read unchecked
  | unchecked read checked first => exact kept.uncheck shown saved read checked first

/-- Where check marks agree with the screen, a block toggles its recipe there. -/
theorem SelectionKept.toggled (kept : SelectionKept texts client)
    (shown : client.selection = some selection) (saved : ref ∈ client.savedRecipes) :
    (toggleRecipeChecked texts ref client selection).client.selection =
      some { selection with
        checkedRecipes := Toggles.toggle ref selection.checkedRecipes } := by
  obtain ⟨recipe, read⟩ := Option.isSome_iff_exists.mp (kept.referenced.saved ref saved)
  have agrees := kept.agrees selection shown ref saved
  have marked : isChecked client ref = recipe.isChecked := by
    rw [isChecked, read]
    rfl
  rw [toggleRecipeChecked, read]
  cases checked : recipe.isChecked with
  | false =>
      have new : ref ∉ selection.checkedRecipes := by
        rw [← agrees, marked, checked]
        exact Bool.false_ne_true
      simp only [checked, Bool.false_eq_true, if_false, Toggles.toggle, if_neg new]
  | true =>
      have old : ref ∈ selection.checkedRecipes := agrees.mp (marked.trans checked)
      have equal : (selection.checkedRecipes.findIdx? fun other =>
          client.recipeValue texts other = some (recipe.compared texts)).isSome = true := by
        rw [List.findIdx?_isSome, List.any_eq_true]
        exact ⟨ref, old, decide_eq_true (congrArg (Option.map _) read)⟩
      obtain ⟨index, first⟩ := Option.isSome_iff_exists.mp equal
      have found := checkedRecipes_get kept shown saved read first
      simp only [checked, if_true, first,
        Toggles.toggle_eq_eraseIdx (kept.once selection shown) found]

theorem checkBoxBlock_eq (texts : TextEquality) (shown : client.selection = some selection)
    (mayShow : selection.MayShow client ref) :
    checkBoxBlock texts ref client = toggleRecipeChecked texts ref client selection := by
  simp only [checkBoxBlock, onSelection, shown, if_pos mayShow]

/-- Where check marks agree with the screen, every tap changes the selection. -/
theorem SelectionKept.tapsChange (kept : SelectionKept texts client)
    (shown : client.selection = some selection) : TapsChange texts client selection := by
  intro row ref visible
  have mayShow : selection.MayShow client ref := .inl (List.mem_of_getElem? visible)
  rw [checkBoxBlock_eq texts shown mayShow]
  refine ⟨_, kept.toggled shown (kept.referenced.saved_of_mayShow shown mayShow), ?_⟩
  rw [Toggles.mem_toggle_iff (kept.once selection shown), if_pos rfl]

/-! ## Steps and runs -/

/-- What leaves the screen and the recipes of the book keeps the agreement. -/
theorem SelectionKept.congr (kept : SelectionKept texts client) (referenced : Referenced changed)
    (savedRecipes : changed.savedRecipes = client.savedRecipes)
    (read : ∀ ref ∈ client.savedRecipes, changed.recipes.read ref = client.recipes.read ref)
    (checkedRecipes : ∀ after ∈ changed.selection, ∃ before ∈ client.selection,
      after.checkedRecipes = before.checkedRecipes) : SelectionKept texts changed := by
  refine ⟨referenced, kept.distinct.congr savedRecipes ?_, ?_, ?_⟩
  · intro ref member
    rw [uncheckedRecipe, uncheckedRecipe, Client.recipeValue, Client.recipeValue, read ref member]
  · intro after shownAfter ref member
    obtain ⟨before, shown, same⟩ := checkedRecipes after shownAfter
    rw [savedRecipes] at member
    rw [same, ← kept.agrees before shown ref member, isChecked, isChecked, read ref member]
  · intro after shownAfter
    obtain ⟨before, shown, same⟩ := checkedRecipes after shownAfter
    rw [same]
    exact kept.once before shown

theorem SelectionKept.handle {action : Action} {effect : Effect} (kept : SelectionKept texts client)
    (acted : ActionCase texts client action effect)
    (opens : ∀ startDate endDate mealPlanUID clock,
      action = .selectRecipeButtonTapped startDate endDate mealPlanUID clock →
        startDate.nanoseconds < endDate.nanoseconds →
          ∀ ref ∈ client.savedRecipes, isChecked client ref = false) :
    SelectionKept texts effect.client := by
  have referenced := kept.referenced.handle acted
  cases acted with
  | idle => exact kept
  | fetchMealPlans => exact kept.congr referenced rfl (fun _ _ => rfl) fun after shown =>
      ⟨after, shown, rfl⟩
  | created uid recipes dates =>
      refine ⟨referenced, kept.distinct, ?_, ?_⟩
      · rintro _ ⟨⟩ ref member
        have unchecked := opens _ _ _ _ rfl dates ref member
        exact ⟨fun checked => absurd (unchecked.symm.trans checked) Bool.false_ne_true,
          fun none => absurd none List.not_mem_nil⟩
      · rintro _ ⟨⟩
        exact List.nodup_nil
  | searched shown found =>
      refine kept.congr referenced rfl (fun _ _ => rfl) ?_
      rintro _ ⟨⟩
      exact ⟨_, shown, rfl⟩
  | toggled shown mayShow =>
      exact kept.toggle shown (kept.referenced.saved_of_mayShow shown mayShow) (toggleCase _ _ _ _)
  | saved shown opened => exact kept.congr referenced rfl (fun _ _ => rfl) fun after shown =>
      ⟨after, shown, rfl⟩
  | deleted listed first => exact kept.congr referenced rfl (fun _ _ => rfl) fun after shown =>
      ⟨after, shown, rfl⟩

theorem opened_selection {startDate endDate : Date} {mealPlanUID : String} {clock : Nat → Date}
    {effect : Effect} (ordered : startDate.nanoseconds < endDate.nanoseconds)
    (handled : handle platform (.selectRecipeButtonTapped startDate endDate mealPlanUID clock)
      client = some effect) :
    ∃ selection, effect.client.selection = some selection ∧ selection.checkedRecipes = [] ∧
      effect.client.savedRecipes = client.savedRecipes ∧
      effect.client.recipes = client.recipes := by
  simp only [MealPlans.handle, selectRecipeButtonTapped, if_pos ordered,
    MealPlanController.createMealPlan] at handled
  cases dates : MealPlanController.dates platform startDate endDate clock with
  | none => simp [dates] at handled
  | some all =>
      simp only [dates, Option.some.injEq] at handled
      subst handled
      exact ⟨_, rfl, rfl, rfl, rfl⟩

theorem SelectionKept.resume {reply : Reply} {effect : Effect} (kept : SelectionKept texts client)
    (loaded : LoadedCase reply client effect) : SelectionKept texts effect.client := by
  have referenced := kept.referenced.resume loaded
  cases loaded with
  | idle => exact kept
  | @loaded snapshot fetched answered delivered =>
      obtain ⟨recipes, plans, same, recipesGrow, -⟩ := allocPlans_eq client fetched
      rw [same] at referenced ⊢
      refine kept.congr referenced rfl ?_ fun after shown => ⟨after, shown, rfl⟩
      intro ref member
      obtain ⟨recipe, read⟩ := Option.isSome_iff_exists.mp (kept.referenced.saved ref member)
      rw [read]
      exact recipesGrow ref recipe read

end

/-- The user has just logged in: references are to objects, the recipes of every book differ,
and no selection screen is open. -/
structure LoggedIn (texts : TextEquality) (s₀ : State) : Prop where
  referenced : AllReferenced s₀
  distinct : ∀ client, DistinctRecipes texts (s₀.clients client)
  closed : ∀ client, (s₀.clients client).selection = none

/-- **Check marks agree with the selection shown and every tap changes it, as long as a screen
is opened only when no recipe is checked. Opening one while a recipe is checked breaks the
agreement.** -/
theorem checkMarks_agree {s₀ : State} (loggedIn : LoggedIn platform.texts s₀) :
    (∀ trace s, (program platform).Run OpensUnchecked s₀ trace s → ∀ client,
      ∀ selection ∈ (s.clients client).selection,
        Agrees (s.clients client) selection ∧
          TapsChange platform.texts (s.clients client) selection) ∧
    ∀ trace s label output s', (program platform).Run OpensUnchecked s₀ trace s →
      (program platform).step s label = some (output, s') → ¬ OpensUnchecked trace s label →
      ∃ client, ∃ selection ∈ (s'.clients client).selection,
        ¬ Agrees (s'.clients client) selection := by
  constructor
  · intro trace s run client selection shown
    have kept : ∀ client, SelectionKept platform.texts (s.clients client) := by
      refine run.invariant
        (I := fun _ s => ∀ client, SelectionKept platform.texts (s.clients client)) ?_ ?_
      · intro client
        refine ⟨loggedIn.referenced client, loggedIn.distinct client, ?_, ?_⟩ <;>
          simp [loggedIn.closed client]
      · intro trace s label output s' kept permitted stepped
        cases stepped with
        | @act actor action effect handled =>
            refine RequestReply.State.forall_clients_commit kept ?_
            refine (kept actor).handle (actionCase_of_handle handled) ?_
            rintro startDate endDate mealPlanUID clock rfl ordered
            exact permitted actor (if_pos ordered)
        | serve inFlight waiting => exact kept
        | deliver inFlight answered resumed =>
            exact RequestReply.State.forall_clients_commit kept
              ((kept _).resume (loadedCase_of_resume resumed).1)
    exact ⟨(kept client).agrees selection shown, (kept client).tapsChange shown⟩
  · intro trace s label output s' run step opens
    simp only [OpensUnchecked, not_forall, Bool.not_eq_false] at opens
    obtain ⟨client, opened, ref, member, checked⟩ := opens
    cases Program.stepCase_of_step step with
    | @act actor action effect handled =>
        cases action with
        | selectRecipeButtonTapped startDate endDate mealPlanUID clock =>
            obtain ⟨ordered, same⟩ := Option.ite_none_right_eq_some.mp opened
            obtain rfl := Option.some.inj same
            obtain ⟨selection, shown, empty, savedRecipes, recipes⟩ :=
              opened_selection ordered handled
            refine ⟨actor, selection, ?_, fun agrees => ?_⟩
            · rw [RequestReply.State.commit_clients_self]
              exact shown
            · rw [RequestReply.State.commit_clients_self, Agrees, savedRecipes] at agrees
              have selected := (agrees ref member).mp (by rw [isChecked, recipes]; exact checked)
              rw [empty] at selected
              cases selected
        | _ => cases opened
    | serve inFlight waiting => cases opened
    | deliver inFlight answered resumed => cases opened

/-! ## Two sessions -/

theorem home_loggedIn : LoggedIn greenwich.texts home where
  referenced _ := show Referenced (home.clients 0) from
    { saved := by decide
      listed := by decide
      planned := fun _ _ read => by cases read
      selected := fun _ shown => by cases shown }
  distinct client first firstMember second secondMember _ :=
    (List.mem_singleton.mp firstMember).trans (List.mem_singleton.mp secondMember).symm
  closed _ := rfl

/-- In the first session the recipe is checked on the screen and has a check mark. -/
theorem checkMarks_agree_first :
    ∃ trace s selection, (program greenwich).Run OpensUnchecked home trace s ∧
      (s.clients 0).selection = some selection ∧ selection.checkedRecipes = [0] ∧
      Agrees (s.clients 0) selection ∧
        TapsChange greenwich.texts (s.clients 0) selection := by
  have executed : ((program greenwich).execute OpensUnchecked home
      [.act 0 (.selectRecipeButtonTapped ⟨0⟩ ⟨oneDay⟩ "P1" fun _ => ⟨0⟩),
        .act 0 (.toggleRecipeChecked 0)] []).any
        (fun last => (last.2.clients 0).selection.any fun selection =>
          decide (selection.checkedRecipes = [0])) = true := by
    decide
  obtain ⟨⟨trace, s⟩, followed, last⟩ := (Option.any_eq_true _ _).mp executed
  obtain ⟨selection, shown, checked⟩ := (Option.any_eq_true _ _).mp last
  have run := Program.Run.of_execute .start followed
  exact ⟨trace, s, selection, run, shown, of_decide_eq_true checked,
    (checkMarks_agree home_loggedIn).1 trace s run 0 selection shown⟩

/-- **In the second session the recipe has its check mark and is not selected.** -/
theorem second_session_disagrees : ¬ CheckMarksAgree greenwich home := by
  intro agree
  have executed : ((program greenwich).execute Program.anyStep home
      [.act 0 (.selectRecipeButtonTapped ⟨0⟩ ⟨oneDay⟩ "P1" fun _ => ⟨0⟩),
        .act 0 (.toggleRecipeChecked 0), .act 0 (.saveRecipesButtonTapped "D1" fun _ => "R2"),
        .act 0 (.selectRecipeButtonTapped ⟨0⟩ ⟨oneDay⟩ "P2" fun _ => ⟨0⟩)] []).any
        (fun last => (last.2.clients 0).selection.any fun selection =>
          decide (selection.checkedRecipes = [] ∧ 0 ∈ (last.2.clients 0).savedRecipes ∧
            isChecked (last.2.clients 0) 0 = true)) = true := by
    decide
  obtain ⟨⟨trace, s⟩, followed, last⟩ := (Option.any_eq_true _ _).mp executed
  obtain ⟨selection, shown, found⟩ := (Option.any_eq_true _ _).mp last
  obtain ⟨empty, member, checked⟩ := of_decide_eq_true found
  obtain ⟨agrees, -⟩ := agree trace s (.of_execute .start followed) 0 selection shown
  have selected := (agrees 0 member).mp checked
  rw [empty] at selected
  cases selected

end MyMealPrep.MealPlans

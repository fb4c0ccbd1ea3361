import MyMealPrep.Login.EditSequences
import MyMealPrep.Login.SessionPairing
import MyMealPrep.Login.SignInsAfterSignUps
import MyMealPrep.Login.SignUpErrors
import MyMealPrep.Login.Answers
import MyMealPrep.RecipeBook.CellImages
import MyMealPrep.RecipeBook.Searches
import MyMealPrep.RecipeBook.BookTable
import MyMealPrep.RecipeBook.Origins
import MyMealPrep.RecipeBook.Reloads
import MyMealPrep.MealPlans.Appearances
import MyMealPrep.MealPlans.Cells
import MyMealPrep.MealPlans.CreatedDates
import MyMealPrep.MealPlans.DatesToEat
import MyMealPrep.MealPlans.Rows
import MyMealPrep.MealPlans.Selections
import MyMealPrep.MealPlans.FetchedPlans
import MyMealPrep.MealPlans.ListTable
import MyMealPrep.MealPlans.ShoppedSessions
import MyMealPrep.Home.Completions
import MyMealPrep.Home.ForeignDocuments
import MyMealPrep.Home.LateFetches
import MyMealPrep.Home.RecentlySaved
import MyMealPrep.ShoppingLists.Launches
import MyMealPrep.ShoppingLists.Agreement
import MyMealPrep.ShoppingLists.EditTaps
import MyMealPrep.ShoppingLists.Ingredients
import MyMealPrep.ShoppingLists.Relaunches
import MyMealPrep.ShoppingLists.Rows

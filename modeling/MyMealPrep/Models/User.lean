import MyMealPrep.Firestore.Value

/-!
# Users

The model class of a user and its decoding from a document of the users
collection: the ID of the document is the `uuid` of the user.
-/

set_option autoImplicit false

namespace MyMealPrep

open Firestore (Document)

/-! ## The names of fields -/

namespace Constants

def email := "email"
def password := "password"
def recipeLabel := "label"
def recipeImage := "image"
def recipeYield := "yield"
def recipeTotalTime := "totalTime"
def recipeUID := "uid"
def recipeIngredients := "ingredients"
def dateToEat := "dateToEat"
def recipeIsChecked := "isChecked"
def recipeDirections := "directions"
def authorID := "authorID"
def mealPlanName := "mealPlanName"
def startDate := "startDate"
def endDate := "endDate"
def mealPlanRecipes := "mealPlanRecipes"
def mealPlanUID := "mealPlanUID"
def mealPlanEncodedRecipes := "mealPlanRecipes"

end Constants

/-! ## Users -/

/-- A user of the app. -/
structure User where
  email : String
  password : String
  uuid : String
deriving DecidableEq, Repr

/-- `UserError` -/
inductive UserError where
  | fireError (description : String)
  | couldNotUnwrap
deriving DecidableEq, Repr

namespace User

/-- `User.init?(document:)` -/
def ofDocument (documentID : String) (document : Document) : Option User := do
  let email ← Document.text document "email"
  let password ← Document.text document "password"
  return { email, password, uuid := documentID }

/-- A decoded user has the texts of the document and its ID. -/
theorem ofDocument_eq_some_iff {documentID : String} {document : Document} {user : User} :
    ofDocument documentID document = some user ↔
      Document.text document "email" = some user.email ∧
        Document.text document "password" = some user.password ∧ user.uuid = documentID := by
  obtain ⟨email, password, uuid⟩ := user
  cases emailText : Document.text document "email" with
  | none => simp [ofDocument, emailText]
  | some first =>
      cases passwordText : Document.text document "password" with
      | none => simp [ofDocument, emailText, passwordText]
      | some second => simp [ofDocument, emailText, passwordText, eq_comm]

end User

end MyMealPrep

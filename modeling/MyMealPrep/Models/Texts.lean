import Mathlib.Data.String.Basic

/-!
# Texts

What the standard library of the source knows of texts. A text is a sequence of
characters, each of which may take several code points, and two texts are equal when
they are canonically equivalent: an accented letter may be one code point or two.

Both are parameters here. Where texts are plain, a character is a code point and equal
texts are the same (`codePoints`, `TextEquality.codePoints`).
-/

set_option autoImplicit false

namespace MyMealPrep

/-! ## Characters -/

/-- The characters of a text, each a text of its own: a text is its characters joined. -/
structure CharacterView where
  characters : String → List String
  join_characters : ∀ text, String.join (characters text) = text

namespace CharacterView

variable (view : CharacterView)

/-- `count` -/
def count (text : String) : Nat :=
  (view.characters text).length

/-- `contains` -/
def contains (text character : String) : Bool :=
  (view.characters text).contains character

/-- `firstIndex(of:)` -/
def firstIndex (text character : String) : Option Nat :=
  (view.characters text).findIdx? fun other => other == character

/-- `text[..<index]` -/
def upTo (text : String) (index : Nat) : String :=
  String.join ((view.characters text).take index)

variable {view}

theorem contains_eq_isSome (text character : String) :
    view.contains text character = (view.firstIndex text character).isSome := by
  rw [contains, firstIndex, List.findIdx?_isSome, List.contains_eq_any_beq]
  exact congrArg (view.characters text).any (funext fun other => Bool.beq_comm)

/-- What is before a character of a text is shorter than the text. -/
theorem upTo_ne {text character : String} {index : Nat} (nonempty : 0 < character.length)
    (found : view.firstIndex text character = some index) : view.upTo text index ≠ text := by
  obtain ⟨inRange, same, _⟩ := List.findIdx?_eq_some_iff_getElem.mp found
  have split : view.upTo text index ++
      String.join ((view.characters text).drop index) = text := by
    rw [upTo, ← String.join_append, List.take_append_drop, view.join_characters]
  intro whole
  have lengths := congrArg String.length split
  rw [List.drop_eq_getElem_cons inRange, eq_of_beq same, String.join_cons, String.length_append,
    String.length_append, whole] at lengths
  omega

end CharacterView

/-- Texts whose characters are their code points. -/
def codePoints : CharacterView where
  characters text := text.toList.map String.singleton
  join_characters text := by
    suffices joined : ∀ characters : List Char,
        String.join (characters.map String.singleton) = String.ofList characters by
      rw [joined, String.ofList_toList]
    intro characters
    induction characters with
    | nil => rfl
    | cons character rest ih =>
        rw [List.map_cons, String.join_cons, ih, String.singleton_eq_ofList,
          ← String.ofList_append, List.singleton_append]

/-! ## Equality -/

/-- The `==` of texts, which compares their normal forms. -/
structure TextEquality where
  normalForm : String → String

namespace TextEquality

variable (texts : TextEquality)

/-- `==` -/
def equal (lhs rhs : String) : Bool :=
  texts.normalForm lhs == texts.normalForm rhs

variable {texts}

theorem equal_iff {lhs rhs : String} :
    texts.equal lhs rhs = true ↔ texts.normalForm lhs = texts.normalForm rhs :=
  beq_iff_eq

@[simp] theorem equal_self (text : String) : texts.equal text text = true :=
  equal_iff.mpr rfl

/-- Texts that are equal only when they are the same. -/
def codePoints : TextEquality where
  normalForm := id

/-- Texts in which an accented e is equal to an e and an accent. -/
def accents : TextEquality where
  normalForm text := String.ofList (text.toList.flatMap fun character =>
    if character = 'é' then ['e', '\u0301'] else [character])

end TextEquality

end MyMealPrep

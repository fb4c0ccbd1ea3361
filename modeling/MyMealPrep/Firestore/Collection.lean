import Mathlib.Data.List.Infix
import MyMealPrep.Firestore.Value
import MyMealPrep.Collections.OrderedMaps

/-!
# Collections of Firestore

A collection maps document IDs to documents. Snapshots list the documents in the
order of their IDs. A write stores the document with its dates turned into
timestamps, and an update fails when there is no document to update.

A document is named by its path below a collection. Firestore refuses a path that does not
lead to a document.
-/

set_option autoImplicit false

namespace MyMealPrep.Firestore

/-- The documents of a collection by their IDs. -/
abbrev Collection := Std.ExtTreeMap String Document

/-- The documents of a snapshot with their IDs. -/
abbrev Snapshot := List (String × Document)

/-! ## Paths -/

/-- `ResourcePath::FromString`: the segments of a path, which may not contain `//`. Empty segments
are skipped. -/
def resourcePath (path : String) : Option (List String) :=
  if ['/', '/'] <:+: path.toList then none
  else some (((path.toList.splitOn '/').filter fun segment => segment ≠ []).map String.ofList)

/-- `CollectionReference::Document`, for a collection whose own path is one segment: the path of
the document below the collection. The whole path must have an even number of segments. -/
def documentPath (path : String) : Option (List String) :=
  match resourcePath path with
  | none => none
  | some segments => if (1 + segments.length) % 2 = 0 then some segments else none

/-! ## Documents -/

namespace Collection

/-- `document(id).setData(data)` -/
def setData (collection : Collection) (id : String) (data : Document) : Collection :=
  collection.insert id (Value.storedFields data)

/-- `document(id).updateData([field : value])` -/
def updateData (collection : Collection) (id field : String) (value : Value) : Option Collection :=
  match collection[id]? with
  | none => none
  | some document => some (collection.insert id (Document.set document field value.stored))

/-- `document(id).delete()` -/
def delete (collection : Collection) (id : String) : Collection :=
  collection.erase id

/-- `getDocuments` -/
def getDocuments (collection : Collection) : Snapshot :=
  collection.toList

/-- `whereField(field, isEqualTo: text).getDocuments` -/
def whereField (collection : Collection) (field text : String) : Snapshot :=
  OrderedMaps.query collection fun entry => Document.text entry.2 field == some text

theorem setData_get (collection : Collection) (id other : String) (data : Document) :
    (collection.setData id data)[other]? =
      if id = other then some (Value.storedFields data) else collection[other]? :=
  OrderedMaps.getElem?_insert collection id other _

theorem delete_get (collection : Collection) (id other : String) :
    (collection.delete id)[other]? = if id = other then none else collection[other]? :=
  OrderedMaps.getElem?_erase collection id other

theorem get_of_setData_get {collection : Collection} {id other : String} {data document : Document}
    (stored : (collection.setData id data)[other]? = some document) :
    collection[other]? = some document ∨ (id, Value.storedFields data) = (other, document) := by
  rw [setData_get] at stored
  split at stored
  · rename_i same
    exact .inr (Prod.ext same (Option.some.inj stored))
  · exact .inl stored

theorem get_of_delete_get {collection : Collection} {id other : String} {document : Document}
    (stored : (collection.delete id)[other]? = some document) :
    collection[other]? = some document := by
  rw [delete_get] at stored
  split at stored
  · cases stored
  · exact stored

theorem updateData_eq_some_iff {collection updated : Collection} {id field : String}
    {value : Value} :
    collection.updateData id field value = some updated ↔
      ∃ document, collection[id]? = some document ∧
        updated = collection.insert id (Document.set document field value.stored) := by
  cases found : collection[id]? with
  | none => simp [updateData, found]
  | some document => simp [updateData, found, eq_comm]

theorem mem_getDocuments {collection : Collection} {id : String} {document : Document} :
    (id, document) ∈ collection.getDocuments ↔ collection[id]? = some document :=
  OrderedMaps.mem_toList

/-- The first document a query finds has the least ID among those with the text. -/
theorem whereField_head?_eq_some_iff {collection : Collection} {field text id : String}
    {document : Document} :
    (collection.whereField field text).head? = some (id, document) ↔
      collection[id]? = some document ∧ Document.text document field = some text ∧
        ∀ other otherDocument, collection[other]? = some otherDocument →
          Document.text otherDocument field = some text → id ≤ other := by
  rw [whereField, OrderedMaps.head?_query_eq_some_iff]
  simp only [beq_iff_eq]

/-! ## The texts of a collection -/

/-- The text of a field of a document, when there is one. -/
def textOf (collection : Collection) (id field : String) : Option String :=
  collection[id]?.bind fun document => Document.text document field

theorem textOf_updateData {collection updated : Collection} {id field value : String}
    (update : collection.updateData id field (.string value) = some updated)
    (other otherField : String) :
    updated.textOf other otherField =
      if id = other ∧ field = otherField then some value
      else collection.textOf other otherField := by
  obtain ⟨document, found, rfl⟩ := updateData_eq_some_iff.mp update
  rw [textOf, OrderedMaps.getElem?_insert]
  by_cases sameID : id = other
  · subst sameID
    by_cases sameField : field = otherField
    · simp [sameField, Value.stored]
    · simp [textOf, found, sameField, Document.text_set_of_ne, Ne.symm sameField]
  · simp [textOf, sameID]

/-- The ID a query finds first, when it finds any. -/
def firstID (collection : Collection) (field text : String) : Option String :=
  (collection.whereField field text).head?.map Prod.fst

/-- The ID found first is the least among those with the text. -/
theorem firstID_eq_some_iff {collection : Collection} {field text id : String} :
    collection.firstID field text = some id ↔
      collection.textOf id field = some text ∧
        ∀ other, collection.textOf other field = some text → id ≤ other := by
  constructor
  · intro first
    obtain ⟨⟨_, document⟩, found, rfl⟩ := Option.map_eq_some_iff.mp first
    obtain ⟨stored, sameText, least⟩ := whereField_head?_eq_some_iff.mp found
    refine ⟨by rw [textOf, stored]; exact sameText, ?_⟩
    intro other otherText
    obtain ⟨otherDocument, otherStored, text⟩ := Option.bind_eq_some_iff.mp otherText
    exact least other otherDocument otherStored text
  · rintro ⟨sameText, least⟩
    obtain ⟨document, stored, text⟩ := Option.bind_eq_some_iff.mp sameText
    have found : (collection.whereField field _).head? = some (id, document) :=
      whereField_head?_eq_some_iff.mpr ⟨stored, text, fun other otherDocument otherStored same =>
        least other (by rw [textOf, otherStored]; exact same)⟩
    rw [firstID, found]
    rfl

theorem firstID_congr {first second : Collection} {field : String}
    (same : ∀ id, first.textOf id field = second.textOf id field) (text : String) :
    first.firstID field text = second.firstID field text := by
  apply Option.ext
  intro id
  simp only [firstID_eq_some_iff, same]

end Collection

end MyMealPrep.Firestore

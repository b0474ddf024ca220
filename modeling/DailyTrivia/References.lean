import DailyTrivia.Models
import DailyTrivia.Segments

/-!
How Firestore's client makes a document reference of the strings the app hands it. An argument of
`document(_:)` is split at every '/', so it need not name a child of its collection, and a
reference that cannot be is an exception that nothing in the app catches.

The other modules take an id as it is. `document_path_iff` says for which ids that is right.
-/
namespace DailyTrivia

open Segments

/-- The segments of a path, from the root. -/
abbrev ResourcePath := List String

/-- What a reference is refused for. -/
inductive InvalidArgument where
  /-- "Document path cannot be empty.", or the same of a collection path. -/
  | emptyPath
  /-- "Invalid path (%s). Paths must not contain // in them." -/
  | doubledSlash (path : String)
  /-- "Invalid document reference. Document references must have an even number of segments, but
  %s has %s" -/
  | oddDocument (path : ResourcePath)
  /-- "Invalid collection reference. Collection references must have an odd number of segments,
  but %s has %s" -/
  | evenCollection (path : ResourcePath)
  deriving DecidableEq

/-- `ResourcePath::FromStringView`. -/
def ResourcePath.fromStringView (path : String) : Except InvalidArgument ResourcePath :=
  if Doubled '/' path.toList then .error (.doubledSlash path)
  else .ok ((segments '/' path.toList).map String.ofList)

/-- `documentWithPath:` of a collection. -/
def documentWithPath (collection : ResourcePath) (documentPath : String) :
    Except InvalidArgument ResourcePath :=
  if documentPath.isEmpty then .error .emptyPath
  else (ResourcePath.fromStringView documentPath).bind fun subPath =>
    let path := collection ++ subPath
    if path.length % 2 ≠ 0 then .error (.oddDocument path) else .ok path

/-- `collectionWithPath:` of a document, or of the root. -/
def collectionWithPath (document : ResourcePath) (collectionPath : String) :
    Except InvalidArgument ResourcePath :=
  if collectionPath.isEmpty then .error .emptyPath
  else (ResourcePath.fromStringView collectionPath).bind fun subPath =>
    let path := document ++ subPath
    if path.length % 2 ≠ 1 then .error (.evenCollection path) else .ok path

/-! ## The references the app makes -/

def usersDocument (key : String) : Except InvalidArgument ResourcePath := do
  documentWithPath (← collectionWithPath [] "users") key

def streaksDocument (username : String) : Except InvalidArgument ResourcePath := do
  documentWithPath (← collectionWithPath [] "streaks") username

def manualReviewsDocument (username : String) : Except InvalidArgument ResourcePath := do
  documentWithPath (← collectionWithPath [] "manualReviews") username

def responsesDocument (username : String) : Except InvalidArgument ResourcePath := do
  documentWithPath (← collectionWithPath [] "responses") username

def questionsDocument (day : String) : Except InvalidArgument ResourcePath := do
  documentWithPath (← collectionWithPath [] "questions") day

/-- The response of a day, in the subcollection of the username. -/
def responseDocument (username day : String) : Except InvalidArgument ResourcePath := do
  documentWithPath (← collectionWithPath (← responsesDocument username) "responses") day

/-- An id that Firestore takes as it is. -/
def IsSegment (id : String) : Prop := id ≠ "" ∧ '/' ∉ id.toList

instance (id : String) : Decidable (IsSegment id) :=
  inferInstanceAs (Decidable (id ≠ "" ∧ '/' ∉ id.toList))

/-- The path of a collection. -/
def CollectionRef.path : CollectionRef → ResourcePath
  | .users => ["users"]
  | .streaks => ["streaks"]
  | .questions => ["questions"]
  | .manualReviews => ["manualReviews"]
  | .allResponses => ["responses"]
  | .responses username => ["responses", username, "responses"]

/-- The path of an id that is taken as it is. -/
def childPath (ref : DocumentRef) : ResourcePath := ref.collection.path ++ [ref.id]

variable {collection path : ResourcePath} {id username day : String}

theorem segments_of_isSegment (segment : IsSegment id) :
    (segments '/' id.toList).map String.ofList = [id] := by
  obtain ⟨nonempty, absent⟩ := segment
  have letters : id.toList ≠ [] := fun none => nonempty (String.toList_eq_nil_iff.mp none)
  simp [segments_of_not_mem absent letters]

/-- When a reference is made, and what it is then. -/
theorem documentWithPath_eq_ok : documentWithPath collection id = .ok path ↔
    id ≠ "" ∧ ¬ Doubled '/' id.toList ∧ path.length % 2 = 0 ∧
      path = collection ++ (segments '/' id.toList).map String.ofList := by
  unfold documentWithPath ResourcePath.fromStringView
  by_cases empty : id = ""
  · simp [empty]
  have nonempty : id.isEmpty = false := by simpa using empty
  by_cases doubled : Doubled '/' id.toList
  · simp [nonempty, doubled, Except.bind]
  simp only [nonempty, Bool.false_eq_true, if_false, doubled, Except.bind]
  split
  · rename_i odd
    constructor
    · nofun
    · rintro ⟨_, _, even, rfl⟩
      exact absurd even odd
  · rename_i even
    constructor
    · rintro ⟨⟩
      exact ⟨empty, not_false, not_not.mp even, rfl⟩
    · rintro ⟨_, _, _, rfl⟩
      rfl

/-- A reference names a child of its collection exactly when the id is a segment. -/
theorem documentWithPath_child_iff (odd : collection.length % 2 = 1) :
    documentWithPath collection id = .ok (collection ++ [id]) ↔ IsSegment id := by
  rw [documentWithPath_eq_ok]
  constructor
  · rintro ⟨nonempty, -, -, same⟩
    have alone := List.append_cancel_left same
    refine ⟨nonempty, ?_⟩
    obtain ⟨part, parts, named⟩ := List.map_eq_singleton_iff.mp alone.symm
    rw [← named, String.toList_ofList]
    exact not_mem_of_segment (parts ▸ List.mem_singleton_self part)
  · intro segment
    have whole := segments_of_isSegment segment
    refine ⟨segment.1, not_doubled_of_not_mem segment.2, ?_, by rw [whole]⟩
    rw [List.length_append, List.length_singleton]
    omega

/-- A collection of a document or of the root, under its name. -/
theorem collectionWithPath_child {document : ResourcePath} {name : String}
    (even : document.length % 2 = 0) (segment : IsSegment name) :
    collectionWithPath document name = .ok (document ++ [name]) := by
  have whole := segments_of_isSegment segment
  have nonempty : name.isEmpty = false := by simpa using segment.1
  have odd : (document.length + 1) % 2 = 1 := by omega
  simp [collectionWithPath, ResourcePath.fromStringView, nonempty,
    not_doubled_of_not_mem segment.2, whole, odd, Except.bind]

/-! ## The references of the app -/

theorem usersDocument_eq (key : String) : usersDocument key = documentWithPath ["users"] key := by
  rw [usersDocument, collectionWithPath_child rfl (by decide)]
  rfl

theorem streaksDocument_eq (username : String) :
    streaksDocument username = documentWithPath ["streaks"] username := by
  rw [streaksDocument, collectionWithPath_child rfl (by decide)]
  rfl

theorem manualReviewsDocument_eq (username : String) :
    manualReviewsDocument username = documentWithPath ["manualReviews"] username := by
  rw [manualReviewsDocument, collectionWithPath_child rfl (by decide)]
  rfl

theorem responsesDocument_eq (username : String) :
    responsesDocument username = documentWithPath ["responses"] username := by
  rw [responsesDocument, collectionWithPath_child rfl (by decide)]
  rfl

theorem questionsDocument_eq (day : String) :
    questionsDocument day = documentWithPath ["questions"] day := by
  rw [questionsDocument, collectionWithPath_child rfl (by decide)]
  rfl

theorem responseDocument_eq (segment : IsSegment username) (day : String) :
    responseDocument username day =
      documentWithPath ["responses", username, "responses"] day := by
  have named : responsesDocument username = .ok ["responses", username] := by
    rw [responsesDocument_eq]
    exact (documentWithPath_child_iff rfl).mpr segment
  have nested : collectionWithPath ["responses", username] "responses" =
      .ok ["responses", username, "responses"] := collectionWithPath_child (by simp) (by decide)
  simp [responseDocument, named, nested, bind, Except.bind]

/-- Different documents have different paths. -/
theorem childPath_injective : Function.Injective childPath := by
  rintro ⟨first, id⟩ ⟨second, id'⟩ same
  cases first <;> cases second <;> simp_all [childPath, CollectionRef.path]

theorem collection_odd (collection : CollectionRef) : collection.path.length % 2 = 1 := by
  cases collection <;> simp [CollectionRef.path]

/-- Firestore names the document an id stands for exactly when the id is a segment. -/
theorem document_path_iff {ref : DocumentRef} :
    documentWithPath ref.collection.path ref.id = .ok (childPath ref) ↔ IsSegment ref.id :=
  documentWithPath_child_iff (collection_odd ref.collection)

end DailyTrivia

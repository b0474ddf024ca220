import DailyTrivia.App
import DailyTrivia.References

/-!
Usernames as keys. `isUsernameValid` looks at the length of a username and at spaces, the client
of Firestore at slashes. A username is a usable key of its own exactly when it holds no slash.
-/
namespace DailyTrivia

/-- Every reference made of a username names a child of its collection, under the username. -/
structure UsableKey (platform : Platform) (username : String) : Prop where
  streaks : streaksDocument username = .ok ["streaks", username]
  responses : responsesDocument username = .ok ["responses", username]
  response : ∀ day, responseDocument username (platform.dateFormattedForDb day) =
    .ok ["responses", username, "responses", platform.dateFormattedForDb day]
  manualReviews : manualReviewsDocument username = .ok ["manualReviews", username]

/-- A document that some reference made of a username names. -/
inductive Names (platform : Platform) (username : String) (path : ResourcePath) : Prop where
  | streaks : streaksDocument username = .ok path → Names platform username path
  | responses : responsesDocument username = .ok path → Names platform username path
  | response {day : ℕ} :
      responseDocument username (platform.dateFormattedForDb day) = .ok path →
      Names platform username path
  | manualReviews : manualReviewsDocument username = .ok path → Names platform username path

/-- Both usernames are usable keys, and if they differ they never name one document. -/
structure UsableKeys (platform : Platform) (first second : String) : Prop where
  usable : UsableKey platform first
  usable' : UsableKey platform second
  unique : first ≠ second → ∀ path, Names platform first path → ¬ Names platform second path

variable {platform : Platform} {username first second : String} {path : ResourcePath}

theorem usableKey_of_isSegment (segment : IsSegment username)
    (days : ∀ day, IsSegment (platform.dateFormattedForDb day)) : UsableKey platform username where
  streaks := by
    rw [streaksDocument_eq]
    exact (documentWithPath_child_iff rfl).mpr segment
  responses := by
    rw [responsesDocument_eq]
    exact (documentWithPath_child_iff rfl).mpr segment
  response day := by
    rw [responseDocument_eq segment]
    exact (documentWithPath_child_iff (by simp)).mpr (days day)
  manualReviews := by
    rw [manualReviewsDocument_eq]
    exact (documentWithPath_child_iff rfl).mpr segment

theorem isSegment_of_usableKey (usable : UsableKey platform username) : IsSegment username := by
  have streaks := usable.streaks
  rw [streaksDocument_eq] at streaks
  exact (documentWithPath_child_iff rfl).mp streaks

/-- The second segment of whatever a usable key names is the username. -/
theorem names_username (usable : UsableKey platform username)
    (names : Names platform username path) : path[1]? = some username := by
  cases names with
  | streaks named =>
    cases usable.streaks.symm.trans named
    rfl
  | responses named =>
    cases usable.responses.symm.trans named
    rfl
  | @response day named =>
    cases (usable.response day).symm.trans named
    rfl
  | manualReviews named =>
    cases usable.manualReviews.symm.trans named
    rfl

/-- A username that is accepted is not empty. -/
theorem nonempty_of_valid (empty : platform.characters "" = [])
    (valid : isUsernameValid platform username = true) : username ≠ "" := by
  rintro rfl
  simp [isUsernameValid, empty] at valid

/-- Accepted usernames are usable, unique keys exactly when they hold no slash. -/
theorem usableKeys_iff_noSlash (empty : platform.characters "" = [])
    (days : ∀ day, IsSegment (platform.dateFormattedForDb day))
    (valid : isUsernameValid platform first = true)
    (valid' : isUsernameValid platform second = true) :
    UsableKeys platform first second ↔ '/' ∉ first.toList ∧ '/' ∉ second.toList := by
  constructor
  · rintro ⟨usable, usable', -⟩
    exact ⟨(isSegment_of_usableKey usable).2, (isSegment_of_usableKey usable').2⟩
  · rintro ⟨noSlash, noSlash'⟩
    have usable := usableKey_of_isSegment ⟨nonempty_of_valid empty valid, noSlash⟩ days
    have usable' := usableKey_of_isSegment ⟨nonempty_of_valid empty valid', noSlash'⟩ days
    refine ⟨usable, usable', fun different path names names' => different ?_⟩
    exact Option.some.inj ((names_username usable names).symm.trans (names_username usable' names'))

/-- A day is written in digits. -/
theorem isSegment_march (day : ℕ) : IsSegment (march.dateFormattedForDb day) := by
  refine ⟨Nat.repr_ne_empty, fun slash => ?_⟩
  have inside : '/' ∈ Nat.toDigits 10 (20250301 + day) := Nat.toList_repr ▸ slash
  have digit : '/'.isDigit = true :=
    Nat.isDigit_of_mem_toDigits (by decide) (by decide) inside
  revert digit
  decide

theorem usableKeys_march : UsableKeys march "annie" "ben" := by
  refine (usableKeys_iff_noSlash (by decide) isSegment_march (by decide) (by decide)).mpr ?_
  decide

/-- "ann/ben" is accepted, and no reference is made of it. -/
theorem not_usableKeys : ¬ ∀ first second, isUsernameValid march first = true →
    isUsernameValid march second = true → UsableKeys march first second := by
  intro claim
  have keys := claim "ann/ben" "ann/ben" (by decide) (by decide)
  have segment := isSegment_of_usableKey keys.usable
  revert segment
  decide

end DailyTrivia

import DailyTrivia.Leaderboard
import DailyTrivia.Submissions

/-!
The correct-answers leaderboard. It goes through the documents of responses and counts the
correct responses under each. `submitAnswer` writes documents below responses/{username}, never
one of responses itself, so there is none to go through.
-/
namespace DailyTrivia

open Documents Runs Totals

/-- `correctAnswersSnapshot.documents.count` -/
def correctCount (documents : Store CollectionRef) (username : String) : Int :=
  (whereField documents (.responses username) "answerOutcome" (.bool true)).length

/-- `fetchCorrectAnswersLeaderboard`, after its reads. -/
def fetchCorrectAnswersLeaderboard (platform : Platform) (order : IterationOrder)
    (documents : Store CollectionRef) (usersSnapshot : List String) : List LeaderboardEntry :=
  let leaderboard := usersSnapshot.foldl (fun leaderboard username =>
    if correctCount documents username > 0 then
      assign platform.equal username (correctCount documents username) leaderboard
    else leaderboard) []
  sortedLeaderboard ((order.iterate leaderboard).map fun (username, value) => { username, value })

/-- The ids that `getDocuments` returns, in some order: of documents that exist themselves. -/
def UsersSnapshot (documents : Store CollectionRef) (usersSnapshot : List String) : Prop :=
  usersSnapshot.Perm (documents .allResponses).keys

/-- Each username with a correct response has one entry, with their number, and nobody else has
one. The most correct answers come first. -/
structure CountsCorrect (documents : Store CollectionRef) (leaderboard : List LeaderboardEntry) :
    Prop where
  once : ∀ username,
    (leaderboard.filter fun entry => entry.username = username).map LeaderboardEntry.value =
    if correctDays documents username = [] then []
    else [((correctDays documents username).length : Int)]
  ordered : leaderboard.Pairwise fun first second => first.value ≥ second.value

/-- A call of `GameService.submitAnswer`. -/
def FromApp : Submission → Prop
  | .app .. => True
  | .http .. => False

/-- What the fetch returns after any calls of `submitAnswer` counts the correct responses. -/
def CorrectCounted (platform : Platform) (cloud : Cloud) : Prop :=
  ∀ (start documents : Store CollectionRef) (submissions : List Submission)
    (order : IterationOrder) (usersSnapshot : List String),
    NoResponses start → start .allResponses = ∅ →
    Run (submit platform cloud) (fun _ => FromApp) start submissions documents →
    UsersSnapshot documents usersSnapshot →
    CountsCorrect documents (fetchCorrectAnswersLeaderboard platform order documents usersSnapshot)

variable {platform : Platform} {cloud : Cloud} {order : IterationOrder}
variable {start documents documents' : Store CollectionRef} {usersSnapshot : List String}
variable {submission : Submission} {submissions : List Submission} {username : String}

theorem correctCount_eq :
    correctCount documents username = (correctDays documents username).length := by
  simp [correctCount, correctDays, whereField, List.filter_map, Function.comp_def]

/-- The entries are the counts of the documents that were gone through, without zeros. -/
theorem correctAnswers_perm
    (distinct : usersSnapshot.Pairwise fun first second => platform.equal first second = false) :
    (fetchCorrectAnswersLeaderboard platform order documents usersSnapshot).Perm
      ((usersSnapshot.filter fun username => correctDays documents username ≠ []).map
        fun username => ⟨username, (correctDays documents username).length⟩) := by
  let counted := (usersSnapshot.filter fun username => correctCount documents username > 0).map
    fun username => (username, correctCount documents username)
  have apart : NoRepeats platform.equal ([] ++ counted) :=
    List.pairwise_map.mpr (distinct.filter _)
  have looped : usersSnapshot.foldl (fun leaderboard username =>
      if correctCount documents username > 0 then
        assign platform.equal username (correctCount documents username) leaderboard
      else leaderboard) [] = counted := by
    have assigned := foldl_assign apart
    rw [List.foldl_map, List.foldl_filter] at assigned
    simpa using assigned
  have same : (counted.map fun (username, value) => LeaderboardEntry.mk username value) =
      (usersSnapshot.filter fun username => correctDays documents username ≠ []).map
        fun username => ⟨username, (correctDays documents username).length⟩ := by
    simp [counted, Function.comp_def, correctCount_eq, List.length_pos_iff]
  rw [fetchCorrectAnswersLeaderboard, looped, ← same]
  exact (sortedLeaderboard_perm _).trans ((order.perm counted).map _)

theorem correctAnswers_ordered :
    (fetchCorrectAnswersLeaderboard platform order documents usersSnapshot).Pairwise
      fun first second => first.value ≥ second.value :=
  sortedLeaderboard_ordered _

/-- A username's entries on the leaderboard, if the ids that were gone through are different. -/
theorem correctAnswers_of_username (different : usersSnapshot.Nodup)
    (distinct : usersSnapshot.Pairwise fun first second => platform.equal first second = false)
    (username : String) :
    ((fetchCorrectAnswersLeaderboard platform order documents usersSnapshot).filter
      fun entry => entry.username = username).map LeaderboardEntry.value =
    if username ∈ usersSnapshot ∧ correctDays documents username ≠ [] then
      [((correctDays documents username).length : Int)] else [] := by
  have values := ((@correctAnswers_perm _ order documents _ distinct).filter
    fun entry => entry.username = username).map LeaderboardEntry.value
  rw [List.filter_map, List.map_map] at values
  simp only [Function.comp_def] at values
  have counted := different.filter fun username => correctDays documents username ≠ []
  rw [List.filter_eq, counted.count] at values
  split
  · rename_i present
    rw [if_pos (List.mem_filter.mpr ⟨present.1, by simpa using present.2⟩)] at values
    exact List.perm_singleton.mp values
  · rename_i absent
    rw [if_neg fun present => absent (by simpa using present)] at values
    exact List.perm_nil.mp values

/-- The fetch counts the correct responses exactly when whoever has one is gone through. -/
theorem countsCorrect_iff_listed (listed : UsersSnapshot documents usersSnapshot)
    (distinct : usersSnapshot.Pairwise fun first second => platform.equal first second = false) :
    CountsCorrect documents
      (fetchCorrectAnswersLeaderboard platform order documents usersSnapshot) ↔
    ∀ username, correctDays documents username ≠ [] → username ∈ (documents .allResponses).keys := by
  have different : usersSnapshot.Nodup := listed.nodup_iff.mpr (documents .allResponses).nodupKeys
  have entries := @correctAnswers_of_username _ order documents _ different distinct
  constructor
  · intro counts username correct
    have once := counts.once username
    rw [entries, if_neg correct] at once
    by_contra unlisted
    rw [if_neg fun present => unlisted (listed.mem_iff.mp present.1)] at once
    cases once
  · refine fun gone_through => ⟨fun username => ?_, correctAnswers_ordered⟩
    rw [entries]
    by_cases correct : correctDays documents username = []
    · rw [if_pos correct, if_neg fun present => present.2 correct]
    · rw [if_neg correct, if_pos ⟨listed.mem_iff.mpr (gone_through username correct), correct⟩]

/-- No submission of the app writes a document of `responses` itself. -/
theorem allResponses_of_submit (fromApp : FromApp submission)
    (submits : submit platform cloud documents submission = some documents') :
    documents' .allResponses = documents .allResponses := by
  cases submission with
  | app question answerText user today =>
    obtain rfl := Option.some.inj submits
    exact Function.update_of_ne (by simp [responseRef]) _ _
  | http => exact fromApp.elim

theorem allResponses_of_run (empty : start .allResponses = ∅)
    (run : Run (submit platform cloud) (fun _ => FromApp) start submissions documents) :
    documents .allResponses = ∅ := by
  refine run.invariant (fun documents => documents .allResponses = ∅) empty ?_
  intro before submission after held fromApp submits
  exact (allResponses_of_submit fromApp submits).trans held

/-- After any calls of `submitAnswer`, what the fetch returns counts the correct responses exactly
when nobody has one. -/
theorem countsCorrect_iff_noneCorrect (platform : Platform) (cloud : Cloud)
    (start documents : Store CollectionRef) (submissions : List Submission)
    (order : IterationOrder) (usersSnapshot : List String)
    (empty : start .allResponses = ∅)
    (run : Run (submit platform cloud) (fun _ => FromApp) start submissions documents)
    (listed : UsersSnapshot documents usersSnapshot) :
    CountsCorrect documents
      (fetchCorrectAnswersLeaderboard platform order documents usersSnapshot) ↔
    ∀ username, correctDays documents username = [] := by
  have none : (documents .allResponses).keys = [] := by
    rw [allResponses_of_run empty run]
    rfl
  have nobody : usersSnapshot = [] := by
    rw [UsersSnapshot, none] at listed
    exact List.perm_nil.mp listed
  subst nobody
  rw [countsCorrect_iff_listed listed .nil, none]
  simp

/-- The store after one submission, annie's correct answer. -/
def parisAnswered : Store CollectionRef :=
  set (firstLaunch [capital]).store.documents (responseRef "annie" "20250301")
    (responseData march capital "Paris" "annie")

theorem run_parisAnswered : Run (submit march plainCloud) (fun _ => FromApp)
    (firstLaunch [capital]).store.documents [.app capital "Paris" "annie" "20250301"]
    parisAnswered :=
  .single trivial rfl

theorem usersSnapshot_parisAnswered : UsersSnapshot parisAnswered [] := .nil

theorem countsCorrect_iff_parisAnswered :
    CountsCorrect parisAnswered (fetchCorrectAnswersLeaderboard march
      ⟨List.reverse, List.reverse_perm⟩ parisAnswered []) ↔
    ∀ username, correctDays parisAnswered username = [] :=
  countsCorrect_iff_noneCorrect march plainCloud _ _ _ _ _ rfl run_parisAnswered
    usersSnapshot_parisAnswered

/-- A correct answer is stored and not counted. -/
theorem not_correctCounted : ¬ CorrectCounted march plainCloud := by
  intro claim
  have counts := claim _ _ _ ⟨List.reverse, List.reverse_perm⟩ [] (fun _ _ => rfl) rfl
    run_parisAnswered usersSnapshot_parisAnswered
  have once := counts.once "annie"
  have stored : correctDays parisAnswered "annie" = ["20250301"] := by decide +kernel
  rw [stored] at once
  cases once

end DailyTrivia

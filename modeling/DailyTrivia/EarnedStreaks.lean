import DailyTrivia.StreakRecords
import DailyTrivia.StreakUpdates
import Mathlib.Data.Finset.Card

/-!
Streaks are earned. Updates can be lost, overtaken and made twice, and a streak can end up with
another account; but each of them was counted up from one that was there, once for a correct answer.
So no streak, stored or shown, exceeds the number of correct answers that have been written.

An answer that has been written and is yet to be counted stands in a finite set until it is.
-/
namespace DailyTrivia

open Documents Runs Function

/-- How many of the answers were correct, whoever gave them. -/
def Tally.correct (tally : Tally) : ℕ := tally.history.countP fun response => response.2

/-- The job has written a correct answer and not yet counted it. -/
def YetToCount (platform : Platform) (w : World) (number : ℕ) : Prop :=
  ∃ site v question answerText username today,
    w.pool number =
      some ⟨site, .submit v (.writeResponse question answerText username today),
        .answered .written⟩ ∧
    isCorrect platform question answerText = true

/-- No streak exceeds what was counted, and the rest of the correct answers is yet to be counted. -/
structure Earned (platform : Platform) (counted : ℕ) (uncounted : Finset ℕ) (w : World)
    (tally : Tally) : Prop where
  bounded : StreaksUpTo counted w
  listed : ∀ number, YetToCount platform w number → number ∈ uncounted
  enough : counted + uncounted.card ≤ tally.correct

variable {platform : Platform} {w w' : World} {tally : Tally} {action : Action}
variable {counted number : ℕ} {uncounted : Finset ℕ}

/-! ## One step -/

theorem correct_observe (platform : Platform) (tally : Tally) (w : World) (action : Action) :
    tally.correct ≤ (tally.observe platform w action).correct := by
  have records := tallied platform w tally action
  generalize tally.observe platform w action = tally' at records
  cases records with
  | recorded _ =>
    simp only [Tally.correct, List.countP_append]
    exact Nat.le_add_right _ _
  | counted _ | same _ _ => exact Nat.le_refl _

/-- A correct answer that is written is one more. -/
theorem correct_recorded {site v : ℕ} {question : TriviaQuestion}
    {answerText username today : String}
    (held : w.pool number =
      some ⟨site, .submit v (.writeResponse question answerText username today), .issued⟩)
    (correct : isCorrect platform question answerText = true) :
    (tally.observe platform w (.serve number)).correct = tally.correct + 1 := by
  simp [Tally.observe, Tally.correct, held, correct]

/-- An answer that is yet to be counted was so before, or this step has written it. -/
theorem uncounted_step (moved : Move platform w action w')
    (present : YetToCount platform w' number) :
    (YetToCount platform w number ∧ action ≠ .resume number) ∨
    ∃ site v question answerText username today, action = .serve number ∧
      w.pool number =
        some ⟨site, .submit v (.writeResponse question answerText username today), .issued⟩ ∧
      isCorrect platform question answerText = true := by
  obtain ⟨site, v, question, answerText, username, today, present, correct⟩ := present
  cases moved.pool present with
  | kept held unmoved =>
    refine .inl ⟨⟨_, _, _, _, _, _, held, correct⟩, ?_⟩
    rintro rfl
    exact unmoved rfl
  | served held _ => exact .inr ⟨_, _, _, _, _, _, rfl, held, correct⟩

theorem earned_step (moved : Move platform w action w') (accounts : Accounts w)
    (earned : Earned platform counted uncounted w tally) :
    ∃ counted' uncounted',
      Earned platform counted' uncounted' w' (tally.observe platform w action) := by
  have enough := earned.enough
  have more := correct_observe platform tally w action
  by_cases counts : CountsUp platform w action
  · obtain ⟨number, site, v, question, answerText, username, today, rfl, held, correct⟩ := counts
    have listed : number ∈ uncounted := earned.listed number ⟨_, _, _, _, _, _, held, correct⟩
    refine ⟨counted + 1, uncounted.erase number, ?_, fun other present => ?_, ?_⟩
    · exact streaksUpTo_step moved accounts earned.bounded (Nat.le_succ _) fun _ => Nat.le_refl _
    · rcases uncounted_step moved present with ⟨before, unmoved⟩ | ⟨_, _, _, _, _, _, served, _⟩
      · have different : other ≠ number := fun same => unmoved (congrArg _ same.symm)
        exact Finset.mem_erase.mpr ⟨different, earned.listed other before⟩
      · cases served
    · have fewer := Finset.card_erase_add_one listed
      omega
  have bounded : StreaksUpTo counted w' :=
    streaksUpTo_step moved accounts earned.bounded (Nat.le_refl _) fun counting =>
      absurd counting counts
  by_cases writes : ∃ number, YetToCount platform w' number ∧ action = .serve number
  · obtain ⟨number, written, rfl⟩ := writes
    rcases uncounted_step moved written with ⟨before, _⟩ | ⟨_, _, _, _, _, _, _, held, correct⟩
    · -- a call that has been answered is not served again
      obtain ⟨_, _, _, _, _, _, held, _⟩ := before
      cases moved with
      | serve issued _ =>
        rw [held] at issued
        cases issued
    · refine ⟨counted, insert number uncounted, bounded, fun other present => ?_, ?_⟩
      · rcases uncounted_step moved present with ⟨before, _⟩ | ⟨_, _, _, _, _, _, served, _⟩
        · exact Finset.mem_insert_of_mem (earned.listed other before)
        · cases served
          exact Finset.mem_insert_self _ _
      · have larger := Finset.card_insert_le number uncounted
        rw [correct_recorded held correct]
        omega
  · refine ⟨counted, uncounted, bounded, fun other present => ?_, by omega⟩
    rcases uncounted_step moved present with ⟨before, _⟩ | ⟨_, _, _, _, _, _, served, _⟩
    · exact earned.listed other before
    · exact absurd ⟨other, present, served⟩ writes

/-! ## Whole runs -/

theorem earned_run {start : World} {after : World × Tally} {actions : List Action}
    (initial : Initial start) (run : Run (tallyStep platform) Any (start, {}) actions after) :
    Accounts after.1 ∧ ∃ counted uncounted, Earned platform counted uncounted after.1 after.2 := by
  induction run with
  | nil =>
    refine ⟨accounts_of_initial initial, 0, ∅, streaksUpTo_of_initial initial, ?_, Nat.le_refl _⟩
    rintro number ⟨_, _, _, _, _, _, held, _⟩
    rw [initial.noJob] at held
    cases held
  | @snoc actions before after action _ _ moved ih =>
    obtain ⟨accounts, counted, uncounted, earned⟩ := ih
    obtain ⟨stepped, observed⟩ := observed_eq_some.mp moved
    have moved := Async.move_of_step stepped
    rw [← observed]
    exact ⟨accounts_step moved accounts, earned_step moved accounts earned⟩

/-- In every run, whatever is lost or overtaken, no stored streak and no streak of a device exceeds
the number of correct answers that have been written. -/
theorem earned_of_run (platform : Platform) (start : World) (after : World × Tally)
    (actions : List Action) (initial : Initial start)
    (run : Run (tallyStep platform) Any (start, {}) actions after) :
    (∀ username, 0 ≤ storedStreak after.1 username ∧
      storedStreak after.1 username ≤ after.2.correct) ∧
    ∀ site streak, (after.1.sites site).streak = some streak →
      0 ≤ streak ∧ streak ≤ after.2.correct := by
  obtain ⟨_, counted, uncounted, earned⟩ := earned_run initial run
  have within : counted ≤ after.2.correct := Nat.le_trans (Nat.le_add_right _ _) earned.enough
  exact ⟨fun username => (earned.bounded.streakIn username).mono within,
    fun site streak cached => (earned.bounded.session site streak cached).mono within⟩

theorem earned_bothAnswer : ∃ after : World × Tally,
    execute (tallyStep march) (firstLaunch [capital], {}) bothAnswer = some after ∧
    (∀ username, 0 ≤ storedStreak after.1 username ∧
      storedStreak after.1 username ≤ after.2.correct) ∧
    ∀ site streak, (after.1.sites site).streak = some streak →
      0 ≤ streak ∧ streak ≤ after.2.correct := by
  have possible :
      (execute (tallyStep march) (firstLaunch [capital], {}) bothAnswer).isSome = true := by
    decide +kernel
  obtain ⟨after, executed, run⟩ := Run.exists_of_execute possible
  exact ⟨after, executed, earned_of_run march _ after _ (initial_firstLaunch _) run⟩

example : (execute (tallyStep march) (firstLaunch [capital], {}) bothAnswer).map (fun after =>
    (storedStreak after.1 "annie", storedStreak after.1 "ben", after.2.correct)) =
    some (1, 0, 1) := by decide +kernel

end DailyTrivia

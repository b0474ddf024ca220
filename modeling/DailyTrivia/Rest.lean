import DailyTrivia.TaskFlow
import DailyTrivia.Termination

/-!
The app comes to rest. The awaits of a task follow one another without a loop: a Google sign-in has
the most, eight if its account is known and its player is new. So what users do is worked off in a
bounded number of steps, in whatever order and however the calls end.
-/
namespace DailyTrivia

open Async (moves events Ranked)
open Runs

/-- The awaits after this one, at most. -/
def SignInTask.rank : SignInTask → ℕ
  | .google _ => 7
  | .register _ | .readGoogleAccount _ => 6
  | .registerSignIn _ | .readGoogleUsername _ => 5
  | .login _ | .readUserAccount _ | .writeGoogleAccount _ | .adoptGoogleUser _
  | .restoreFirebase _ | .restoreGoogle _ => 4
  | .writeUserAccount _ | .readUsername _ => 3
  | .fetchUserStreak _ => 2
  | .readStreak _ _ => 1
  | .resetStreak _ _ => 0

def LoadTask.rank : LoadTask → ℕ
  | .refreshData => 4
  | .loadQuestion => 3
  | .readQuestion _ => 2
  | .checkResponseExists => 1
  | .readResponse _ _ => 0

def SubmitTask.rank : SubmitTask → ℕ
  | .submitAnswer => 3
  | .writeResponse _ _ _ _ => 2
  | .updateStreak _ => 1
  | .writeStreak _ _ => 0

def UsernameTask.rank : UsernameTask → ℕ
  | .submitUsername _ => 1
  | .writeUsername _ _ => 0

def ReviewTask.rank : ReviewTask → ℕ
  | .submitReview _ _ => 3
  | .readReviews _ _ => 2
  | .composeReview _ _ => 1
  | .writeReview _ _ _ => 0

def Task.rank : Task → ℕ
  | .signIn task => task.rank
  | .load _ task => task.rank
  | .submit _ task => task.rank
  | .enterUsername _ task => task.rank
  | .review _ task => task.rank
  | .logout _ _ => 0

variable {platform : Platform} {d : Device} {task next : Task} {reply : Reply} {event : Event}

theorem rank_begins (begins : Begins d event task) : task.rank < 8 := by
  cases begins <;> simp [Task.rank, SignInTask.rank, LoadTask.rank, SubmitTask.rank,
    UsernameTask.rank, ReviewTask.rank]

theorem rank_continues (continues : Continues platform d task reply next) :
    next.rank < task.rank := by
  cases continues <;> simp [Task.rank, SignInTask.rank, LoadTask.rank, SubmitTask.rank,
    UsernameTask.rank, ReviewTask.rank]

def appRanked (platform : Platform) : Ranked (app platform) 8 where
  rank := Task.rank
  begins reacted := rank_begins (begins_of_react reacted)
  goes resumed := rank_continues (continues_of_resume resumed)

/-- No step of a task is possible. -/
def AtRest (platform : Platform) (w : World) : Prop :=
  ∀ action : Action, action.moved.isSome = true → step platform w action = none

/-- In every run tasks take at most sixteen steps for every event, and they stop only when all of
them have come to their end. -/
theorem comesToRest_of_run (platform : Platform) (start after : World) (actions : List Action)
    (initial : Initial start) (run : Run (step platform) Any start actions after) :
    moves actions ≤ 16 * events actions ∧
    (AtRest platform after → ∀ number, after.pool number = none) :=
  ⟨Async.moves_le_of_run (appRanked platform) initial.noJob run, Async.ended_of_stuck⟩

theorem comesToRest_signUp : ∃ after,
    execute (step march) (firstLaunch [capital]) (signUp 0 "ann@example.com" "annie") = some after ∧
    moves (signUp 0 "ann@example.com" "annie") ≤
      16 * events (signUp 0 "ann@example.com" "annie") ∧
    (AtRest march after → ∀ number, after.pool number = none) := by
  have possible : (execute (step march) (firstLaunch [capital])
      (signUp 0 "ann@example.com" "annie")).isSome = true := by decide +kernel
  obtain ⟨after, executed, run⟩ := Run.exists_of_execute possible
  exact ⟨after, executed, comesToRest_of_run march _ after _ (initial_firstLaunch _) run⟩

end DailyTrivia

import DailyTrivia.AccountCreation

/-!
Usernames that are given once. Nothing in the app keeps two accounts from storing one
username, or an account from storing a second one; `NamedOnce` rules both out, and the
moment of account creation in which a username is lost. A stored username then stays and
belongs to one account.
-/
namespace DailyTrivia

open Runs

/-- A username is written only where no account has it. -/
def Unused (w : World) (action : Action) : Prop :=
  ∀ key username, WritesUsername w action key username →
    ∀ other, storedUsername w other ≠ some username

/-- A username is written for an account that is settled and has none, and that nobody else
has. -/
structure NamedOnce (w : World) (action : Action) : Prop where
  settled : CreationSettled w action
  unnamed : ∀ key username, WritesUsername w action key username → storedUsername w key = none
  unused : Unused w action

/-- No two users documents hold one username. -/
def Distinct (w : World) : Prop :=
  ∀ first second username, storedUsername w first = some username →
    storedUsername w second = some username → first = second

/-- What is preserved when usernames are given once. -/
structure Named (w : World) : Prop where
  unnamed : Unnamed w
  distinct : Distinct w

variable {platform : Platform} {w w' : World} {action : Action} {key username : String}

theorem storedUsername_stays (moved : Move platform w action w') (once : NamedOnce w action)
    (named : Named w) (stored : storedUsername w key = some username) :
    storedUsername w' key = some username := by
  rcases username_step moved named.unnamed stored with kept | ⟨chosen, writes, _⟩
  · exact kept
  · have unnamed := once.unnamed key chosen writes
    rw [stored] at unnamed
    cases unnamed

/-- A stored username was stored before or is written by this step. -/
theorem storedUsername_origin (moved : Move platform w action w')
    (stored : storedUsername w' key = some username) :
    storedUsername w key = some username ∨ WritesUsername w action key username := by
  rcases storedUsername_step moved key with same | ⟨chosen, writes, written⟩ | ⟨none, _⟩
  · exact .inl (same ▸ stored)
  · rw [stored] at written
    cases written
    exact .inr writes
  · rw [stored] at none
    cases none

theorem writesUsername_key {other : String} (writes : WritesUsername w action key username)
    (writes' : WritesUsername w action other username) : key = other := by
  obtain ⟨number, _, _, rfl, held⟩ := writes
  obtain ⟨_, _, _, ⟨⟩, held'⟩ := writes'
  rw [held] at held'
  cases held'
  rfl

theorem distinct_step (moved : Move platform w action w') (unused : Unused w action)
    (distinct : Distinct w) : Distinct w' := by
  intro first second username stored stored'
  rcases storedUsername_origin moved stored with before | writes <;>
    rcases storedUsername_origin moved stored' with before' | writes'
  · exact distinct first second username before before'
  · exact absurd before (unused second username writes' first)
  · exact absurd before' (unused first username writes second)
  · exact writesUsername_key writes writes'

theorem named_step (moved : Move platform w action w') (once : NamedOnce w action)
    (named : Named w) : Named w' where
  unnamed := unnamed_step moved once.settled named.unnamed
  distinct := distinct_step moved once.unused named.distinct

theorem storedUsername_of_initial (initial : Initial w) (key : String) :
    storedUsername w key = none := by
  have missing := initial.noDocument (userRef key) (by simp [userRef])
  exact storedUsername_missing missing

theorem distinct_of_initial (initial : Initial w) : Distinct w := by
  intro first second username stored
  rw [storedUsername_of_initial initial first] at stored
  cases stored

theorem named_of_initial (initial : Initial w) : Named w where
  unnamed := unnamed_of_initial initial
  distinct := distinct_of_initial initial

/-- Usernames that are free when they are written are different, whatever else goes wrong. -/
theorem distinct_of_unused {start after : World} {actions : List Action} (initial : Initial start)
    (run : Run (step platform) Unused start actions after) : Distinct after :=
  run.invariant Distinct (distinct_of_initial initial) fun _ _ _ distinct unused moved =>
    distinct_step (Async.move_of_step moved) unused distinct

end DailyTrivia

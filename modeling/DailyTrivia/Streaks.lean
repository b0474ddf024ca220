import Mathlib.Data.List.Basic
import Mathlib.Data.Nat.Notation

/-!
Streaks of outcomes. `trailing` counts a sequence of outcomes: how many of the latest were
right, with none wrong among them. `consecutive` counts days of a calendar on which there may
have been no outcome at all. `trailing_eq_consecutive` says when counting the outcomes, in the
order of their days, counts the days: no day was left out since the streak began.
-/
namespace Streaks

/-- The number of right outcomes since the last wrong one. -/
def trailing (outcomes : List Bool) : ℕ := (outcomes.reverse.takeWhile id).length

@[simp] theorem trailing_nil : trailing [] = 0 := rfl

theorem trailing_concat (outcomes : List Bool) (outcome : Bool) :
    trailing (outcomes ++ [outcome]) = if outcome then trailing outcomes + 1 else 0 := by
  cases outcome <;> simp [trailing]

variable (played : ℕ → Option Bool)

/-- The outcomes of the days up to and with `day`, in order. -/
def outcomesTo (day : ℕ) : List Bool := (List.range (day + 1)).filterMap played

/-- The number of consecutive days, ending on `day`, that were right. -/
def consecutive : ℕ → ℕ
  | 0 => if played 0 = some true then 1 else 0
  | day + 1 => if played (day + 1) = some true then consecutive day + 1 else 0

/-- The streak on a day: it ends on that day if it has an outcome, and the day before if it is
still open. -/
def dayStreak (day : ℕ) : ℕ :=
  match played day, day with
  | some _, _ => consecutive played day
  | none, 0 => 0
  | none, before + 1 => consecutive played before

/-- A right outcome that no wrong one has followed by `day`. -/
def Lasting (day first : ℕ) : Prop :=
  played first = some true ∧ ∀ later, first < later → later ≤ day → played later ≠ some false

/-- No day before `day` was left out since the streak began. -/
def Unbroken (day : ℕ) : Prop :=
  ∀ first between, Lasting played day first → first ≤ between → between < day →
    played between ≠ none

variable {played} {day : ℕ}

theorem outcomesTo_succ (played : ℕ → Option Bool) (day : ℕ) :
    outcomesTo played (day + 1) = outcomesTo played day ++ (played (day + 1)).toList := by
  unfold outcomesTo
  rw [List.range_succ, List.filterMap_append]
  cases outcome : played (day + 1) <;> simp [outcome]

theorem trailing_zero (played : ℕ → Option Bool) :
    trailing (outcomesTo played 0) = if played 0 = some true then 1 else 0 := by
  cases outcome : played 0 with
  | none => simp [outcomesTo, outcome]
  | some right => cases right <;> simp [outcomesTo, outcome, trailing]

theorem outcomesTo_congr {other : ℕ → Option Bool}
    (same : ∀ earlier, earlier ≤ day → other earlier = played earlier) :
    outcomesTo other day = outcomesTo played day := by
  refine List.filterMap_congr fun earlier upTo => same earlier ?_
  have bound := List.mem_range.mp upTo
  omega

/-- The outcome of a day that was open comes last. -/
theorem outcomesTo_answered {other : ℕ → Option Bool} {right : Bool}
    (unplayed : played day = none) (answered : other day = some right)
    (same : ∀ earlier, earlier ≠ day → other earlier = played earlier) :
    outcomesTo other day = outcomesTo played day ++ [right] := by
  cases day with
  | zero => simp [outcomesTo, unplayed, answered]
  | succ day =>
    have before : outcomesTo other day = outcomesTo played day :=
      outcomesTo_congr fun earlier upTo => same earlier (by omega)
    simp [outcomesTo_succ, before, unplayed, answered]

/-- A day adds to the streak, leaves it or ends it. -/
theorem trailing_succ (played : ℕ → Option Bool) (day : ℕ) :
    trailing (outcomesTo played (day + 1)) =
      match played (day + 1) with
      | none => trailing (outcomesTo played day)
      | some true => trailing (outcomesTo played day) + 1
      | some false => 0 := by
  rw [outcomesTo_succ]
  cases played (day + 1) with
  | none => simp
  | some right =>
    rw [Option.toList_some, trailing_concat]
    cases right <;> simp

theorem lasting_self (right : played day = some true) : Lasting played day day :=
  ⟨right, fun later after upTo => by omega⟩

/-- A right outcome lasts another day unless that day is wrong. -/
theorem lasting_succ {first : ℕ} (earlier : first ≤ day) :
    Lasting played (day + 1) first ↔
      Lasting played day first ∧ played (day + 1) ≠ some false := by
  constructor
  · rintro ⟨right, lasts⟩
    have lasts' := lasts (day + 1) (by omega) (by omega)
    exact ⟨⟨right, fun later after upTo => lasts later after (by omega)⟩, lasts'⟩
  · rintro ⟨⟨right, lasts⟩, last⟩
    refine ⟨right, fun later after upTo => ?_⟩
    by_cases same : later = day + 1
    · rwa [same]
    · exact lasts later after (by omega)

/-- What lasts on a day that was not right began earlier. -/
theorem lasting_earlier {first : ℕ} (lasting : Lasting played (day + 1) first)
    (upTo : first ≤ day + 1) (wrong : played (day + 1) ≠ some true) : first ≤ day := by
  refine Nat.le_of_not_lt fun later => ?_
  have same : first = day + 1 := by omega
  subst same
  exact wrong lasting.1

/-- There is no streak where nothing lasts. -/
theorem trailing_eq_zero :
    trailing (outcomesTo played day) = 0 ↔ ∀ first, first ≤ day → ¬ Lasting played day first := by
  induction day with
  | zero =>
    rw [trailing_zero]
    constructor
    · intro empty first upTo lasting
      have same : first = 0 := by omega
      subst same
      simp [lasting.1] at empty
    · intro none
      have wrong : played 0 ≠ some true := fun right => none 0 (by omega) (lasting_self right)
      simp [wrong]
  | succ day ih =>
    rw [trailing_succ]
    split
    · rename_i unplayed
      rw [ih]
      constructor
      · intro none first upTo lasting
        have earlier := lasting_earlier lasting upTo (by simp [unplayed])
        exact none first earlier ((lasting_succ earlier).mp lasting).1
      · intro none first upTo lasting
        exact none first (by omega) ((lasting_succ upTo).mpr ⟨lasting, by simp [unplayed]⟩)
    · rename_i right
      constructor
      · intro empty
        exact absurd empty (Nat.succ_ne_zero _)
      · intro none
        exact absurd (lasting_self right) (none (day + 1) (by omega))
    · rename_i wrong
      refine iff_of_true rfl fun first upTo lasting => ?_
      have earlier := lasting_earlier lasting upTo (by simp [wrong])
      exact ((lasting_succ earlier).mp lasting).2 wrong

/-- Every day up to and with `day` has an outcome since the streak began. -/
def Covered (played : ℕ → Option Bool) (day : ℕ) : Prop :=
  ∀ first between, Lasting played day first → first ≤ between → between ≤ day →
    played between ≠ none

theorem trailing_eq_consecutive :
    trailing (outcomesTo played day) = consecutive played day ↔ Covered played day := by
  induction day with
  | zero =>
    refine iff_of_true (trailing_zero played) fun first between lasting since upTo => ?_
    have same : between = first := by omega
    rw [same, lasting.1]
    nofun
  | succ day ih =>
    rw [trailing_succ, consecutive]
    split
    · rename_i unplayed
      simp only [unplayed, reduceCtorEq, if_false, trailing_eq_zero]
      constructor
      · intro none first between lasting since upTo
        have earlier := lasting_earlier lasting (by omega) (by simp [unplayed])
        exact absurd ((lasting_succ earlier).mp lasting).1 (none first earlier)
      · intro covered first upTo lasting
        have lasting' := (lasting_succ upTo).mpr ⟨lasting, by simp [unplayed]⟩
        exact covered first (day + 1) lasting' (by omega) (by omega) unplayed
    · rename_i right
      simp only [right, if_true, Nat.add_right_cancel_iff, ih]
      constructor
      · intro covered first between lasting since upTo
        by_cases last : between = day + 1
        · simp [last, right]
        · exact covered first between ((lasting_succ (by omega)).mp lasting).1 since (by omega)
      · intro covered first between lasting since upTo
        have lasting' := (lasting_succ (by omega)).mpr ⟨lasting, by simp [right]⟩
        exact covered first between lasting' since (by omega)
    · rename_i wrong
      refine iff_of_true (by simp [wrong]) fun first between lasting since upTo => ?_
      have earlier := lasting_earlier lasting (by omega) (by simp [wrong])
      exact absurd wrong ((lasting_succ earlier).mp lasting).2

/-- Counting the outcomes counts the days exactly when no day was left out. -/
theorem trailing_eq_dayStreak :
    trailing (outcomesTo played day) = dayStreak played day ↔ Unbroken played day := by
  cases outcome : played day with
  | some right =>
    have ends : dayStreak played day = consecutive played day := by simp [dayStreak, outcome]
    rw [ends, trailing_eq_consecutive]
    constructor
    · intro covered first between lasting since before
      exact covered first between lasting since (by omega)
    · intro unbroken first between lasting since upTo
      by_cases last : between = day
      · simp [last, outcome]
      · exact unbroken first between lasting since (by omega)
  | none =>
    cases day with
    | zero =>
      refine iff_of_true ?_ fun first between _ _ before => by omega
      simp [trailing_zero, dayStreak, outcome]
    | succ day =>
      have ends : dayStreak played (day + 1) = consecutive played day := by
        simp [dayStreak, outcome]
      rw [ends, trailing_succ, outcome, trailing_eq_consecutive]
      constructor
      · intro covered first between lasting since before
        have lasting' := ((lasting_succ (by omega)).mp lasting).1
        exact covered first between lasting' since (by omega)
      · intro unbroken first between lasting since upTo
        have lasting' := (lasting_succ (by omega)).mpr ⟨lasting, by simp [outcome]⟩
        exact unbroken first between lasting' since (by omega)

end Streaks

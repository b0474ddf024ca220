import DailyTrivia.DocumentWrites
import DailyTrivia.TaskFlow
import DailyTrivia.Streaks

/-!
Whether the stored streak keeps up with the stored responses. A submission computes the new
streak from the one the session has cached and writes it whole, and `fetchUserStreak` writes
a 0 where it has found nothing.

`Tally` records the outcomes in the order they were written and the job that owes each one
its streak update. `CountedInTurn` says that the cached streak a submission computes from is
the stored one, and that nothing comes between a response and its update. Then nothing is
lost.
-/
namespace DailyTrivia

open Documents Runs Function Streaks

/-- What has been answered, and what is yet to be counted. -/
structure Tally where
  /-- The slots of the responses that were written, in order. -/
  slots : List (String × String) := []
  /-- Who answered, and whether correctly, in the same order. -/
  history : List (String × Bool) := []
  /-- The user whose latest response a job has written and not counted. -/
  owed : ℕ → Option String := fun _ => none

namespace Tally

def observe (platform : Platform) (tally : Tally) (w : World) : Action → Tally
  | .serve number =>
    match w.pool number with
    | some ⟨_, .submit _ (.writeResponse question answerText username today), .issued⟩ =>
      { slots := tally.slots ++ [(username, today)]
        history := tally.history ++ [(username, isCorrect platform question answerText)]
        owed := update tally.owed number (some username) }
    | some ⟨_, .submit _ (.writeStreak _ _), .issued⟩ =>
      { tally with owed := update tally.owed number none }
    | _ => tally
  | _ => tally

/-- The outcomes of one user's responses. -/
def outcomes (tally : Tally) (username : String) : List Bool :=
  (tally.history.filter fun response => response.1 == username).map Prod.snd

end Tally

abbrev tallyStep (platform : Platform) : World × Tally → Action → Option (World × Tally) :=
  Observed (step platform) (Tally.observe platform)

/-- The streak that is stored for a user, 0 if there is none. -/
def storedStreak (w : World) (username : String) : Int :=
  streakIn w.store.documents username

/-- The step is not the failure of a write. -/
def sparesWrites (platform : Platform) (w : World) : Action → Bool
  | .fail number =>
    match w.pool number with
    | some ⟨_, task, .issued⟩ => !(call platform task).isWrite
    | _ => true
  | _ => true

/-- No streak update is lost: whenever nothing is under way, the stored streak is the number
of correct responses since the last incorrect one. -/
def NoLostUpdate (platform : Platform) (allowed : World × Tally → Action → Prop) : Prop :=
  ∀ (start : World) (after : World × Tally) (actions : List Action), Initial start →
    Run (tallyStep platform) (fun s action => sparesWrites platform s.1 action ∧ allowed s action)
      (start, {}) actions after →
    after.2.slots.Nodup → (∀ number, after.1.pool number = none) →
    ∀ username, storedStreak after.1 username = trailing (after.2.outcomes username)

/-- Streaks are counted in turn, from what is stored. -/
structure CountedInTurn (platform : Platform) (s : World × Tally) (action : Action) : Prop where
  /-- A response is written when the user's earlier ones are counted. -/
  alone : ∀ number site v question answerText username today, action = .serve number →
    s.1.pool number =
      some ⟨site, .submit v (.writeResponse question answerText username today), .issued⟩ →
    ∀ other, s.2.owed other ≠ some username
  /-- The cached streak is the stored one when the next one is computed from it. -/
  cached : ∀ number site v question answerText username today, action = .resume number →
    s.1.pool number =
      some ⟨site, .submit v (.writeResponse question answerText username today),
        .answered .written⟩ →
    isCorrect platform question answerText = true →
    (s.1.sites site).streak.getD 0 = storedStreak s.1 username
  /-- The user is still signed in when the update begins. -/
  present : ∀ number site v streak reply, action = .resume number →
    s.1.pool number = some ⟨site, .submit v (.updateStreak streak), .answered reply⟩ →
    (s.1.sites site).username = s.2.owed number
  /-- The 0 of a missing streak is written while there is no streak to lose. -/
  missing : ∀ number site email username, action = .serve number →
    s.1.pool number = some ⟨site, .signIn (.resetStreak email username), .issued⟩ →
    storedStreak s.1 username = 0
  /-- No process ends that owes an update. -/
  running : ∀ number job, s.1.pool number = some job → action = .restart job.site →
    s.2.owed number = none

variable {platform : Platform} {w w' : World} {tally : Tally} {action : Action}
variable {number : ℕ} {username : String} {job : Job}

/-- What a job that owes an update is about to do. -/
inductive Owing (platform : Platform) (w : World) (tally : Tally) (username : String) :
    Job → Prop where
  | recorded {site v : ℕ} {question : TriviaQuestion} {answerText today : String} :
      (trailing (tally.outcomes username) : Int) =
        (if isCorrect platform question answerText then storedStreak w username + 1 else 0) →
      Owing platform w tally username
        ⟨site, .submit v (.writeResponse question answerText username today), .answered .written⟩
  | computed {site v : ℕ} {phase : Async.Phase Reply} :
      Owing platform w tally username
        ⟨site, .submit v (.updateStreak (trailing (tally.outcomes username))), phase⟩
  | writing {site v : ℕ} :
      Owing platform w tally username
        ⟨site, .submit v (.writeStreak username (trailing (tally.outcomes username))), .issued⟩

/-- A job in the course of a streak update. -/
inductive Updating : Job → Prop where
  | recorded {site v : ℕ} {question : TriviaQuestion} {answerText username today : String} :
      Updating
        ⟨site, .submit v (.writeResponse question answerText username today), .answered .written⟩
  | computed {site v : ℕ} {streak : Int} {phase : Async.Phase Reply} :
      Updating ⟨site, .submit v (.updateStreak streak), phase⟩
  | writing {site v : ℕ} {username : String} {streak : Int} :
      Updating ⟨site, .submit v (.writeStreak username streak), .issued⟩

/-- The stored streaks are right but for the updates that are owed, one a user. -/
structure Balanced (platform : Platform) (w : World) (tally : Tally) : Prop where
  owing : ∀ number username, tally.owed number = some username →
    ∃ job, w.pool number = some job ∧ Owing platform w tally username job
  tracked : ∀ number job, w.pool number = some job → Updating job →
    (tally.owed number).isSome = true
  single : ∀ number number' username, tally.owed number = some username →
    tally.owed number' = some username → number = number'
  counted : ∀ username, (∀ number, tally.owed number ≠ some username) →
    storedStreak w username = trailing (tally.outcomes username)

/-! ## One step -/

/-- What a step does to the tally. -/
inductive Tallied (platform : Platform) (w : World) (tally : Tally) : Action → Tally → Prop where
  | recorded {number site v : ℕ} {question : TriviaQuestion} {answerText username today : String} :
      w.pool number =
        some ⟨site, .submit v (.writeResponse question answerText username today), .issued⟩ →
      Tallied platform w tally (.serve number) {
        slots := tally.slots ++ [(username, today)]
        history := tally.history ++ [(username, isCorrect platform question answerText)]
        owed := update tally.owed number (some username) }
  | counted {number site v : ℕ} {username : String} {streak : Int} :
      w.pool number = some ⟨site, .submit v (.writeStreak username streak), .issued⟩ →
      Tallied platform w tally (.serve number) { tally with owed := update tally.owed number none }
  | same {action : Action} :
      (∀ number site v question answerText username today, action = .serve number →
        w.pool number ≠
          some ⟨site, .submit v (.writeResponse question answerText username today), .issued⟩) →
      (∀ number site v username streak, action = .serve number →
        w.pool number ≠ some ⟨site, .submit v (.writeStreak username streak), .issued⟩) →
      Tallied platform w tally action tally

theorem tallied (platform : Platform) (w : World) (tally : Tally) (action : Action) :
    Tallied platform w tally action (tally.observe platform w action) := by
  cases action with
  | serve number =>
    simp only [Tally.observe]
    split
    · exact .recorded ‹_›
    · exact .counted ‹_›
    · rename_i response streak
      refine .same ?_ ?_
      · rintro _ site v question answerText username today ⟨⟩ held
        exact response _ _ _ _ _ _ held
      · rintro _ site v username n ⟨⟩ held
        exact streak _ _ _ _ held
  | _ => exact .same nofun nofun

/-- A stored streak that changes is reset to 0 or written by a submission. -/
theorem storedStreak_step (moved : Move platform w action w') (username : String) :
    storedStreak w' username = storedStreak w username ∨
    (∃ number site email, action = .serve number ∧
      w.pool number = some ⟨site, .signIn (.resetStreak email username), .issued⟩ ∧
      storedStreak w' username = 0) ∨
    ∃ number site v streak, action = .serve number ∧
      w.pool number = some ⟨site, .submit v (.writeStreak username streak), .issued⟩ ∧
      storedStreak w' username = streak := by
  rcases moved.store with same | ⟨number, site, task, reply, rfl, held, served⟩
  · exact .inl (by simp only [storedStreak, streakIn, same])
  · rcases serve_streak served username with same | wrote
    · exact .inl (by simp only [storedStreak, streakIn, same])
    · simp only [storedStreak, streakIn]
      generalize get w.store.documents (streakRef username) = old at wrote
      generalize get w'.store.documents (streakRef username) = new at wrote
      have written : ∀ streak : Int,
          (mergeInto (streakData username streak) old).int "streak" = some streak := fun streak =>
        int_of_some (mergeInto_of_some rfl)
      cases wrote with
      | reset => exact .inr (.inl ⟨number, site, _, rfl, held, by simp [written]⟩)
      | counted => exact .inr (.inr ⟨number, site, _, _, rfl, held, by simp [written]⟩)

theorem outcomes_append (tally : Tally) (username other : String) (outcome : Bool)
    (slots : List (String × String)) (owed : ℕ → Option String) :
    Tally.outcomes ⟨slots, tally.history ++ [(username, outcome)], owed⟩ other =
      if username = other then tally.outcomes other ++ [outcome] else tally.outcomes other := by
  by_cases same : username = other <;> simp [Tally.outcomes, List.filter_append, same]

/-- A submission's streak is stored when its write is served. -/
theorem storedStreak_written {site v : ℕ} {streak : Int}
    (moved : Move platform w (.serve number) w')
    (held : w.pool number = some ⟨site, .submit v (.writeStreak username streak), .issued⟩) :
    storedStreak w' username = streak := by
  cases moved with
  | serve present served =>
    obtain ⟨rfl, rfl, _⟩ := Async.Job.mk.inj (Option.some.inj (held.symm.trans present))
    obtain ⟨rfl, rfl⟩ := Prod.mk.inj (Option.some.inj served)
    have written : (mergeInto (streakData username streak)
        (get w.store.documents (streakRef username))).int "streak" = some streak :=
      int_of_some (mergeInto_of_some rfl)
    simp [storedStreak, streakIn, written]

/-- A stored streak only changes when a submission writes it: a reset finds a 0. -/
theorem storedStreak_kept (moved : Move platform w action w')
    (turn : CountedInTurn platform (w, tally) action)
    (unwritten : ∀ number site v streak, action = .serve number →
      w.pool number ≠ some ⟨site, .submit v (.writeStreak username streak), .issued⟩) :
    storedStreak w' username = storedStreak w username := by
  rcases storedStreak_step moved username with
    same | ⟨number, site, email, serves, held, zero⟩ | ⟨number, site, v, streak, serves, held, _⟩
  · exact same
  · rw [zero, turn.missing number site email username serves held]
  · exact absurd held (unwritten number site v streak serves)

/-- An owed update stays owed while the streak and the outcomes of its user do. -/
theorem Owing.transfer {tally' : Tally} (owing : Owing platform w tally username job)
    (stored : storedStreak w' username = storedStreak w username)
    (outcomes : tally'.outcomes username = tally.outcomes username) :
    Owing platform w' tally' username job := by
  cases owing with
  | recorded next =>
    refine .recorded ?_
    rw [stored, outcomes, next]
  | computed =>
    rw [← outcomes]
    exact .computed
  | writing =>
    rw [← outcomes]
    exact .writing

/-- The update of a job that is moved goes on as it is owed, up to its write. -/
theorem owing_moved (moved : Async.Moved (app platform) w w' number job action)
    (spared : sparesWrites platform w action = true) (turn : CountedInTurn platform (w, tally) action)
    (held : w.pool number = some job) (owes : tally.owed number = some username)
    (unwritten : ∀ number site v username streak, action = .serve number →
      w.pool number ≠ some ⟨site, .submit v (.writeStreak username streak), .issued⟩)
    (owing : Owing platform w tally username job) :
    ∃ job, w'.pool number = some job ∧ Owing platform w tally username job := by
  cases owing with
  | @recorded site v question answerText today next =>
    cases moved with
    | resumed resumed pool =>
      obtain ⟨_, rfl⟩ := Prod.mk.inj resumed
      have computed : trailing (tally.outcomes username) =
          if isCorrect platform question answerText then (w.sites site).streak.getD 0 + 1 else 0 := by
        by_cases correct : isCorrect platform question answerText = true
        · rw [next, if_pos correct, if_pos correct,
            turn.cached number site v question answerText username today rfl held correct]
        · rw [next, if_neg correct, if_neg correct]
      refine ⟨_, pool, ?_⟩
      rw [← computed]
      exact .computed
  | computed =>
    cases moved with
    | served _ pool => exact ⟨_, pool, .computed⟩
    | failed pool => exact ⟨_, pool, .computed⟩
    | resumed resumed pool =>
      have present := (turn.present _ _ _ _ _ rfl held).trans owes
      obtain ⟨_, rfl⟩ := Prod.mk.inj resumed
      simp only [SubmitTask.resume, Device.updateCurrentUsersStreak, present] at pool
      exact ⟨_, pool, .writing⟩
  | writing =>
    cases moved with
    | served _ _ => exact absurd held (unwritten _ _ _ _ _ rfl)
    | failed _ => simp [sparesWrites, held, call, SubmitTask.call, Call.isWrite] at spared

/-- A job that owes an update and is not moved still owes it. -/
theorem owing_stays {tally' : Tally} (moved : Move platform w action w')
    (turn : CountedInTurn platform (w, tally) action) (balanced : Balanced platform w tally)
    (owes : tally.owed number = some username) (unmoved : action.moved ≠ some number)
    (stored : storedStreak w' username = storedStreak w username)
    (outcomes : tally'.outcomes username = tally.outcomes username) :
    ∃ job, w'.pool number = some job ∧ Owing platform w' tally' username job := by
  obtain ⟨job, held, owing⟩ := balanced.owing number username owes
  refine ⟨job, moved.stays held unmoved ?_, owing.transfer stored outcomes⟩
  rintro site rfl rfl
  have idle := turn.running number job held rfl
  rw [owes] at idle
  cases idle

/-- A response is written: its job owes the update. -/
theorem owing_recorded {site v : ℕ} {question : TriviaQuestion} {answerText today : String}
    (moved : Move platform w (.serve number) w')
    (turn : CountedInTurn platform (w, tally) (.serve number)) (balanced : Balanced platform w tally)
    (held : w.pool number =
      some ⟨site, .submit v (.writeResponse question answerText username today), .issued⟩)
    (slots : List (String × String)) (owed : ℕ → Option String) :
    ∃ job, w'.pool number = some job ∧ Owing platform w'
      ⟨slots, tally.history ++ [(username, isCorrect platform question answerText)], owed⟩
      username job := by
  have kept : storedStreak w' username = storedStreak w username := by
    refine storedStreak_kept moved turn fun other site v streak serves writes => ?_
    cases serves
    rw [held] at writes
    cases writes
  have counted := balanced.counted username (turn.alone _ _ _ _ _ _ _ rfl held)
  cases moved.moved held rfl with
  | served served pool =>
    obtain ⟨_, rfl⟩ := Prod.mk.inj (Option.some.inj served)
    refine ⟨_, pool, .recorded ?_⟩
    rw [outcomes_append, if_pos rfl, trailing_concat, kept, counted]
    split <;> simp

theorem owing_step (moved : Move platform w action w') (spared : sparesWrites platform w action = true)
    (turn : CountedInTurn platform (w, tally) action) (balanced : Balanced platform w tally)
    (owes : (tally.observe platform w action).owed number = some username) :
    ∃ job, w'.pool number = some job ∧
      Owing platform w' (tally.observe platform w action) username job := by
  generalize observed : tally.observe platform w action = tally' at owes
  have happened := tallied platform w tally action
  rw [observed] at happened
  cases happened with
  | @recorded written site v question answerText writer today held =>
    by_cases same : number = written
    · subst same
      obtain rfl : writer = username := by simpa using owes
      exact owing_recorded moved turn balanced held _ _
    · have owes : tally.owed number = some username := by simpa [same] using owes
      have other : writer ≠ username := by
        rintro rfl
        exact turn.alone _ _ _ _ _ _ _ rfl held number owes
      refine owing_stays moved turn balanced owes
        (fun moves => same (Option.some.inj moves).symm) ?_ ?_
      · refine storedStreak_kept moved turn fun _ _ _ _ serves writes => ?_
        cases serves
        rw [held] at writes
        cases writes
      · rw [outcomes_append, if_neg other]
  | @counted written site v writer streak held =>
    have other : number ≠ written := by
      rintro rfl
      simp at owes
    have owes : tally.owed number = some username := by simpa [other] using owes
    refine owing_stays moved turn balanced owes
      (fun moves => other (Option.some.inj moves).symm) ?_ rfl
    refine storedStreak_kept moved turn fun _ _ _ _ serves writes => ?_
    cases serves
    rw [held] at writes
    cases writes
    -- the job that writes is the one that owes this user's update
    obtain ⟨writer, owed⟩ := Option.isSome_iff_exists.mp (balanced.tracked written _ held .writing)
    obtain ⟨job, present, owing⟩ := balanced.owing written writer owed
    obtain rfl := Option.some.inj (held.symm.trans present)
    cases owing
    exact other (balanced.single _ _ _ owes owed)
  | same noResponse noStreak =>
    have kept : storedStreak w' username = storedStreak w username :=
      storedStreak_kept moved turn fun number site v streak => noStreak number site v username streak
    by_cases moves : action.moved = some number
    · obtain ⟨job, held, owing⟩ := balanced.owing number username owes
      obtain ⟨next, pool, owing⟩ :=
        owing_moved (moved.moved held moves) spared turn held owes noStreak owing
      exact ⟨next, pool, owing.transfer kept rfl⟩
    · exact owing_stays moved turn balanced owes moves kept rfl

/-- The tally of a job that is not served does not change. -/
theorem owed_of_unmoved (unmoved : action.moved ≠ some number) :
    (tally.observe platform w action).owed number = tally.owed number := by
  generalize observed : tally.observe platform w action = tally'
  have happened := tallied platform w tally action
  rw [observed] at happened
  cases happened with
  | @recorded written =>
    have other : number ≠ written := fun same => unmoved (congrArg some same.symm)
    simp [other]
  | @counted written =>
    have other : number ≠ written := fun same => unmoved (congrArg some same.symm)
    simp [other]
  | same => rfl

theorem tracked_step (moved : Move platform w action w') (balanced : Balanced platform w tally)
    (present : w'.pool number = some job) (updating : Updating job) :
    ((tally.observe platform w action).owed number).isSome = true := by
  cases moved.pool present with
  | kept held unmoved =>
    rw [owed_of_unmoved unmoved]
    exact balanced.tracked number job held updating
  | spawned reacted =>
    cases updating <;> cases begins_of_react reacted
  | served held served =>
    cases updating with
    | recorded => simp [Tally.observe, held]
    | computed => simpa [Tally.observe, held] using balanced.tracked _ _ held .computed
  | failed held =>
    cases updating with
    | computed => exact balanced.tracked _ _ held .computed
  | resumed held resumed =>
    cases updating with
    | computed =>
      cases continues_of_resume resumed with
      | answered => exact balanced.tracked _ _ held .recorded
    | writing =>
      cases continues_of_resume resumed with
      | counted => exact balanced.tracked _ _ held .computed

theorem single_step (turn : CountedInTurn platform (w, tally) action)
    (balanced : Balanced platform w tally)
    {number' : ℕ} (owes : (tally.observe platform w action).owed number = some username)
    (owes' : (tally.observe platform w action).owed number' = some username) :
    number = number' := by
  generalize observed : tally.observe platform w action = tally' at owes owes'
  have happened := tallied platform w tally action
  rw [observed] at happened
  cases happened with
  | recorded held =>
    have alone := turn.alone _ _ _ _ _ _ _ rfl held
    rcases Async.update_some owes with ⟨rfl, ⟨⟩⟩ | ⟨_, before⟩ <;>
      rcases Async.update_some owes' with ⟨rfl, same⟩ | ⟨_, before'⟩
    · rfl
    · exact absurd before' (alone _)
    · cases same
      exact absurd before (alone _)
    · exact balanced.single _ _ _ before before'
  | counted _ =>
    obtain ⟨_, ⟨⟩⟩ | ⟨_, before⟩ := Async.update_some owes
    obtain ⟨_, ⟨⟩⟩ | ⟨_, before'⟩ := Async.update_some owes'
    exact balanced.single _ _ _ before before'
  | same => exact balanced.single _ _ _ owes owes'

theorem balanced_counted (moved : Move platform w action w')
    (turn : CountedInTurn platform (w, tally) action) (balanced : Balanced platform w tally)
    (settled : ∀ number, (tally.observe platform w action).owed number ≠ some username) :
    storedStreak w' username = trailing ((tally.observe platform w action).outcomes username) := by
  generalize observed : tally.observe platform w action = tally' at settled
  have happened := tallied platform w tally action
  rw [observed] at happened
  cases happened with
  | @recorded written site v question answerText writer today held =>
    have other : writer ≠ username := by
      rintro rfl
      exact settled written (by simp)
    have before : ∀ number, tally.owed number ≠ some username := by
      intro number owes
      by_cases same : number = written
      · subst same
        obtain ⟨job, present, owing⟩ := balanced.owing number username owes
        obtain rfl := Option.some.inj (held.symm.trans present)
        cases owing
      · exact settled number (by simpa [same] using owes)
    rw [outcomes_append, if_neg other, ← balanced.counted username before]
    refine storedStreak_kept moved turn fun _ _ _ _ serves writes => ?_
    cases serves
    rw [held] at writes
    cases writes
  | @counted written site v writer streak held =>
    obtain ⟨owner, owed⟩ := Option.isSome_iff_exists.mp (balanced.tracked written _ held .writing)
    obtain ⟨job, present, owing⟩ := balanced.owing written owner owed
    obtain rfl := Option.some.inj (held.symm.trans present)
    by_cases same : owner = username
    · subst same
      cases owing
      exact storedStreak_written moved held
    · have before : ∀ number, tally.owed number ≠ some username := by
        intro number owes
        by_cases here : number = written
        · subst here
          exact same (Option.some.inj (owed.symm.trans owes))
        · exact settled number (by simpa [here] using owes)
      rw [storedStreak_kept moved turn, balanced.counted username before]
      · rfl
      · intro other site v streak serves writes
        cases serves
        rw [held] at writes
        cases writes
        cases owing
        exact same rfl
  | same _ noStreak =>
    rw [storedStreak_kept moved turn fun number site v streak =>
      noStreak number site v username streak]
    exact balanced.counted username settled

theorem balanced_step (moved : Move platform w action w')
    (spared : sparesWrites platform w action = true)
    (turn : CountedInTurn platform (w, tally) action) (balanced : Balanced platform w tally) :
    Balanced platform w' (tally.observe platform w action) where
  owing _ _ owes := owing_step moved spared turn balanced owes
  tracked _ _ present updating := tracked_step moved balanced present updating
  single _ _ _ owes owes' := single_step turn balanced owes owes'
  counted _ settled := balanced_counted moved turn balanced settled

/-! ## Runs -/

theorem balanced_of_initial {start : World} (initial : Initial start) :
    Balanced platform start {} where
  owing _ _ owes := by cases owes
  tracked number job held := by
    rw [initial.noJob number] at held
    cases held
  single _ _ _ owes := by cases owes
  counted username _ := by
    have missing := initial.noDocument (streakRef username) (by simp [streakRef])
    simp [storedStreak, streakIn, missing, Tally.outcomes]

/-- No update is lost as long as streaks are counted in turn. -/
theorem noLostUpdate_of_countedInTurn (platform : Platform) :
    NoLostUpdate platform (CountedInTurn platform) := by
  intro start after actions initial run _ quiet username
  have balanced : Balanced platform after.1 after.2 := by
    refine run.invariant (fun s => Balanced platform s.1 s.2) (balanced_of_initial initial) ?_
    rintro before action after balanced ⟨spared, turn⟩ moved
    obtain ⟨moved, recorded⟩ := observed_eq_some.mp moved
    rw [← recorded]
    exact balanced_step (Async.move_of_step moved) spared turn balanced
  refine balanced.counted username fun number owes => ?_
  obtain ⟨job, held, _⟩ := balanced.owing number username owes
  rw [quiet number] at held
  cases held

/-- Annie answers on two days. The read of her streak fails when she comes back. -/
def streakUnread : List Action :=
  signUp 0 "ann@example.com" "annie" ++
  ([.react 0 (.tapSubmitAnswer 0 "Paris") 0] : List Action) ++ advance 0 ++ advance 0 ++
  advance 0 ++ advance 0 ++
  ([.react 0 .midnight 0, .restart 0, .react 0 .loginViewAppears 0] : List Action) ++ advance 0 ++
  advance 0 ++ advance 0 ++
  ([.fail 0, .resume 0, .react 0 .currentUserChanges 0,
    .react 0 (.gameViewAppears 0) 0] : List Action) ++ advance 0 ++ advance 0 ++ advance 0 ++
  advance 0 ++ advance 0 ++
  ([.react 0 (.tapSubmitAnswer 0 "Paris") 0] : List Action) ++ advance 0 ++ advance 0 ++
  advance 0 ++ advance 0

theorem streakUnread_one :
    (execute (guarded (fun s => sparesWrites march s.1) (tallyStep march))
      (firstLaunch [capital, { capital with date := march.dateFormattedForDb 1 }], {})
      streakUnread).map (fun s => (storedStreak s.1 "annie", s.2.slots, s.2.history,
        (s.1.pool 0).isNone)) =
      some (1, [("annie", "20250301"), ("annie", "20250302")], [("annie", true), ("annie", true)],
        true) := by
  decide +kernel

/-- A streak can be lost to a read that fails. -/
theorem not_noLostUpdate : ¬ NoLostUpdate march Any := by
  intro claim
  obtain ⟨after, ran, reached⟩ := Option.map_eq_some_iff.mp streakUnread_one
  obtain ⟨stored, slots, history, ended⟩ : storedStreak after.1 "annie" = 1 ∧
      after.2.slots = [("annie", "20250301"), ("annie", "20250302")] ∧
      after.2.history = [("annie", true), ("annie", true)] ∧
      (after.1.pool 0).isNone = true := by simpa using reached
  have run := Run.of_guarded ran
  have quiet : ∀ number, after.1.pool number = none := by
    intro number
    by_cases first : number = 0
    · subst first
      simpa using ended
    · have run' : Run (step march) Any _ streakUnread after.1 := run.forget fun _ _ _ => trivial
      refine Async.free_of_run run' rfl fun action performed => ?_
      have only : ∀ action ∈ streakUnread, action.takes = some 0 ∨ action.takes = none := by decide
      rcases only action performed with taken | taken <;> simp [taken, Ne.symm first]
  have counted := claim _ after streakUnread (initial_firstLaunch _)
    (run.weaken fun _ _ spared => ⟨spared, trivial⟩) (by simp [slots]) quiet "annie"
  revert counted
  simp [stored, Tally.outcomes, history, trailing]

end DailyTrivia

import DailyTrivia.GameViews

/-!
The clock of a device. Midnight is the only event that moves it, by one day, so a day that has
been read from it is never ahead of it.
-/
namespace DailyTrivia

open Documents

variable {platform : Platform} {d d' : Device} {reply : Reply} {w w' : World} {action : Action}

theorem OnlyViews.day (only : OnlyViews d d') : d'.day = d.day := by
  obtain ⟨_, _, rfl⟩ := only
  rfl

theorem assignUsername_day (d : Device) (snapshot : Option Doc) :
    (d.assignUsername snapshot).day = d.day := by
  unfold Device.assignUsername
  split <;> rfl

theorem signIn_day (task : SignInTask) (reply : Reply) (d : Device) :
    (task.resume reply d).1.day = d.day := by
  unfold SignInTask.resume
  split
  case h_10 | h_15 => exact assignUsername_day d _
  all_goals first | rfl | (split <;> first | rfl | (split <;> rfl))

/-- No task moves the clock. -/
theorem resume_day (task : Task) (reply : Reply) (d : Device) :
    (resume platform task reply d).1.day = d.day := by
  cases viewed : task.view with
  | none =>
    cases task with
    | signIn task => exact signIn_day task reply d
    | _ => cases viewed
  | some v =>
    have leaves := @leaves_of_resume platform v task viewed reply d
    generalize (resume platform task reply d).1 = left at leaves ⊢
    cases leaves with
    | refreshed => exact (refreshed_frame v d).day
    | _ => rfl

theorem react_day {event : Event} {next : Option Task}
    (reacted : react platform event d = some (d', next)) (awake : event ≠ .midnight) :
    d'.day = d.day := by
  cases reacts_of_react reacted with
  | midnight => exact absurd rfl awake
  | _ => rfl

/-- A step leaves the clock of a device, or it is midnight there. -/
theorem day_step (moved : Move platform w action w') (site : ℕ) :
    (w'.sites site).day = (w.sites site).day ∨
      (∃ job, action = .react site .midnight job) ∧
        (w'.sites site).day = (w.sites site).day + 1 := by
  cases moved.memory site with
  | kept same => exact .inl (by rw [same])
  | @reacted event job next reacted =>
    by_cases midnight : event = .midnight
    · subst midnight
      have later : { w.sites site with day := (w.sites site).day + 1 } = w'.sites site :=
        congrArg Prod.fst (Option.some.inj reacted)
      exact .inr ⟨⟨job, rfl⟩, by rw [← later]⟩
    · exact .inl (react_day reacted midnight)
  | @resumed job task reply next held resumed =>
    have same : (resume platform task reply (w.sites site)).1 = w'.sites site :=
      congrArg Prod.fst resumed
    exact .inl (by rw [← same, resume_day])
  | restarted same =>
    rw [same]
    exact .inl rfl

theorem day_stays (moved : Move platform w action w') {site : ℕ}
    (awake : ∀ job, action ≠ .react site .midnight job) :
    (w'.sites site).day = (w.sites site).day := by
  rcases day_step moved site with same | ⟨⟨job, midnight⟩, -⟩
  · exact same
  · exact absurd midnight (awake job)

end DailyTrivia

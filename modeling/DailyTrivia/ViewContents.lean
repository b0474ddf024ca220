import DailyTrivia.Clock

/-!
What a game view shows, and for which day. A question or an answer comes into a view with the
reply to one of its fetches or submissions, and only a refresh on a new day takes them away.
`Evolves` says so for a step that touches one installation, view by view.
-/
namespace DailyTrivia

open Documents

/-- What the view shows has a date that passes. -/
def Holds (dated : String → Prop) (d : Device) (v : ℕ) : Prop :=
  ∀ view, d.views v = some view →
    (∀ question, view.currentQuestion = some question → dated question.date) ∧
    ∀ answer, view.submittedAnswer = some answer → dated answer.date

/-- A view is changed in place. It does not come back on screen, and what it shows is what it
showed, or has a date that passes. -/
def Evolves (dated : String → Prop) (v : ℕ) (d d' : Device) : Prop :=
  ∃ change : TriviaGameView → TriviaGameView, d'.views v = (d.views v).map change ∧ ∀ view,
    ((change view).onScreen = true → view.onScreen = true) ∧
    (∀ question, (change view).currentQuestion = some question →
      view.currentQuestion = some question ∨ dated question.date) ∧
    ∀ answer, (change view).submittedAnswer = some answer →
      view.submittedAnswer = some answer ∨ dated answer.date

/-- The date of the question or answer that the reply to a task brings into its view. -/
def Task.brings : Task → Option String
  | .load _ (.readQuestion today) | .load _ (.readResponse _ today) => some today
  | .submit _ (.writeResponse question _ _ _) => some question.date
  | _ => none

/-- The view of a task shows what the task brings. -/
def Brought (task : Task) (v : ℕ) (date : String) : Prop :=
  task.view = some v ∧ task.brings = some date

variable {platform : Platform} {dated : String → Prop} {v : ℕ} {d d' d'' : Device} {reply : Reply}

theorem Holds.imp {weaker : String → Prop} (holds : Holds dated d v)
    (implied : ∀ date, dated date → weaker date) : Holds weaker d v := by
  intro view shown
  obtain ⟨questions, answers⟩ := holds view shown
  exact ⟨fun question asked => implied _ (questions question asked),
    fun answer given => implied _ (answers answer given)⟩

/-- A view that is not there shows nothing. -/
theorem holds_of_absent (absent : d.views v = none) : Holds dated d v := by
  intro view shown
  rw [absent] at shown
  cases shown

namespace Evolves

theorem of_same (same : d'.views = d.views) : Evolves dated v d d' :=
  ⟨id, by simp [same], fun _ => ⟨id, fun _ => .inl, fun _ => .inl⟩⟩

theorem trans (first : Evolves dated v d d') (second : Evolves dated v d' d'') :
    Evolves dated v d d'' := by
  obtain ⟨change, changed, keeps⟩ := first
  obtain ⟨change', changed', keeps'⟩ := second
  refine ⟨change' ∘ change, by rw [changed', changed, Option.map_map], fun view => ?_⟩
  obtain ⟨screen, questions, answers⟩ := keeps view
  obtain ⟨screen', questions', answers'⟩ := keeps' (change view)
  refine ⟨fun shown => screen (screen' shown), fun question asked => ?_, fun answer given => ?_⟩
  · rcases questions' question asked with before | passes
    · exact questions question before
    · exact .inr passes
  · rcases answers' answer given with before | passes
    · exact answers answer before
    · exact .inr passes

theorem onView {u : ℕ} {change : TriviaGameView → TriviaGameView}
    (screen : ∀ view, (change view).onScreen = view.onScreen)
    (questions : u = v → ∀ view question, (change view).currentQuestion = some question →
      view.currentQuestion = some question ∨ dated question.date)
    (answers : u = v → ∀ view answer, (change view).submittedAnswer = some answer →
      view.submittedAnswer = some answer ∨ dated answer.date) :
    Evolves dated v d (d.onView u change) := by
  by_cases same : u = v
  · subst same
    exact ⟨change, by simp [Device.onView], fun view =>
      ⟨by simp [screen], questions rfl view, answers rfl view⟩⟩
  · exact ⟨id, by simp [Device.onView, Ne.symm same], fun _ => ⟨id, fun _ => .inl, fun _ => .inl⟩⟩

/-- A change of other fields of a view. -/
theorem onView' {u : ℕ} {change : TriviaGameView → TriviaGameView}
    (screen : ∀ view, (change view).onScreen = view.onScreen)
    (questions : ∀ view, (change view).currentQuestion = view.currentQuestion)
    (answers : ∀ view, (change view).submittedAnswer = view.submittedAnswer) :
    Evolves dated v d (d.onView u change) :=
  .onView screen (fun _ view _ asked => .inl (questions view ▸ asked))
    fun _ view _ given => .inl (answers view ▸ given)

theorem alert {u : ℕ} {message : ErrorMessage} : Evolves dated v d (d.alert u message) :=
  .onView' (fun _ => rfl) (fun _ => rfl) fun _ => rfl

theorem finishLoading {u : ℕ} : Evolves dated v d (d.finishLoading u) :=
  .onView' (fun _ => rfl) (fun _ => rfl) fun _ => rfl

/-- What passes is still shown, and nothing else came. -/
theorem holds (evolves : Evolves dated v d d') (holds : Holds dated d v) : Holds dated d' v := by
  obtain ⟨change, changed, keeps⟩ := evolves
  intro view' shown'
  rw [changed] at shown'
  obtain ⟨view, shown, rfl⟩ := Option.map_eq_some_iff.mp shown'
  obtain ⟨_, questions, answers⟩ := keeps view
  refine ⟨fun question asked => ?_, fun answer given => ?_⟩
  · rcases questions question asked with before | passes
    · exact (holds view shown).1 question before
    · exact passes
  · rcases answers answer given with before | passes
    · exact (holds view shown).2 answer before
    · exact passes

theorem imp {weaker : String → Prop} (evolves : Evolves dated v d d')
    (implied : ∀ date, dated date → weaker date) : Evolves weaker v d d' := by
  obtain ⟨change, changed, keeps⟩ := evolves
  refine ⟨change, changed, fun view => ?_⟩
  obtain ⟨screen, questions, answers⟩ := keeps view
  exact ⟨screen, fun question asked => (questions question asked).imp_right (implied _),
    fun answer given => (answers answer given).imp_right (implied _)⟩

/-- Whoever is on screen was on screen, or was not there. -/
theorem onScreen (evolves : Evolves dated v d d')
    (shown : ∀ view', d'.views v = some view' → view'.onScreen = true) {view : TriviaGameView}
    (there : d.views v = some view) : view.onScreen = true := by
  obtain ⟨change, changed, keeps⟩ := evolves
  rw [there] at changed
  exact (keeps view).1 (shown (change view) changed)

end Evolves

/-- A question that has been fetched is the question of the day it was fetched for. -/
def FetchedFor (task : Task) (reply : Reply) : Prop :=
  ∀ u today document question, task = .load u (.readQuestion today) →
    reply = .snapshot (some document) → TriviaQuestion.decode document = some question →
    question.date = today

theorem refresh_evolves (u : ℕ) (d : Device) : Evolves dated v d (d.refreshData platform u) := by
  simp only [Device.refreshData]
  split
  · have dated' : Evolves dated v d { d with lastSeenDate := platform.dateFormattedForDb d.day } :=
      .of_same rfl
    refine dated'.trans (.onView (fun _ => rfl) ?_ ?_)
    · intro _ view question asked
      cases asked
    · intro _ view answer given
      cases given
  · exact .of_same rfl

theorem logout_evolves (signOutThrows : Bool) : Evolves dated v d (d.logout signOutThrows) :=
  ⟨fun view => { view with onScreen := false }, rfl, fun _ => ⟨nofun, fun _ => .inl, fun _ => .inl⟩⟩

/-- A segment of a task brings into a view what the task was for. -/
theorem resume_evolves {task : Task} {next : Option Task} (question : FetchedFor task reply)
    (resumed : resume platform task reply d = (d', next)) : Evolves (Brought task v) v d d' := by
  obtain rfl : (resume platform task reply d).1 = d' := congrArg Prod.fst resumed
  cases viewed : task.view with
  | none =>
    cases task with
    | signIn task =>
      obtain ⟨_, _, _, _, same⟩ := signIn_frame task reply d
      exact .of_same (by simp only [resume, same])
    | _ => cases viewed
  | some u =>
    have leaves := @leaves_of_resume platform u task viewed reply d
    generalize (resume platform task reply d).1 = left at leaves ⊢
    have opened : Evolves (Brought task v) v d
        (d.onView u fun view => { view with isLoading := true }) :=
      .onView' (fun _ => rfl) (fun _ => rfl) fun _ => rfl
    cases leaves with
    | kept => exact .of_same rfl
    | failed _ => exact .alert
    | refreshed => exact opened.trans (refresh_evolves u _)
    | loaded decoded =>
      refine .onView (fun _ => rfl) ?_ fun _ _ _ => .inl
      rintro rfl view fetched ⟨⟩
      exact .inr ⟨rfl, congrArg some (question _ _ _ _ rfl rfl decoded).symm⟩
    | finished _ => exact .finishLoading
    | @found username today answer _ dated =>
      have shown : Evolves (Brought (.load u (.readResponse username today)) v) v d
          (d.onView u fun view => { view with submittedAnswer := some answer }) := by
        refine .onView (fun _ => rfl) (fun _ _ _ => .inl) ?_
        rintro rfl view given ⟨⟩
        exact .inr ⟨rfl, congrArg some dated.symm⟩
      exact shown.trans .finishLoading
    | answered =>
      refine .onView (fun _ => rfl) (fun _ _ _ => .inl) ?_
      rintro rfl view given ⟨⟩
      exact .inr ⟨rfl, rfl⟩
    | @counted username streak =>
      have assigned : Evolves (Brought (.submit u (.writeStreak username streak)) v) v d
        (d.assignStreak streak) := .of_same rfl
      exact assigned.trans (.onView' (fun _ => rfl) (fun _ => rfl) fun _ => rfl)
    | @named key username =>
      have assigned : Evolves (Brought (.enterUsername u (.writeUsername key username)) v) v d
        (d.assign fun user => { user with username := some username }) := .of_same rfl
      exact assigned.trans (.onView' (fun _ => rfl) (fun _ => rfl) fun _ => rfl)
    | loggedOut cleared =>
      refine (opened.trans (logout_evolves _)).trans (.onView' ?_ ?_ ?_)
      all_goals
        intro view
        rw [cleared]
    | _ => exact .onView' (fun _ => rfl) (fun _ => rfl) fun _ => rfl

/-- An event brings nothing into a view that is there. -/
theorem react_evolves {event : Event} {task : Option Task}
    (reacted : react platform event d = some (d', task)) :
    Evolves dated v d d' ∨ (d.views v = none ∧ d'.views v = some {}) := by
  cases reacts_of_react reacted with
  | @appeared u absent =>
    by_cases same : v = u
    · subst same
      exact .inr ⟨absent, by simp⟩
    · exact .inl ⟨id, by simp [same], fun _ => ⟨id, fun _ => .inl, fun _ => .inl⟩⟩
  | typed => exact .inl (.onView' (fun _ => rfl) (fun _ => rfl) fun _ => rfl)
  | _ => exact .inl (.of_same rfl)

end DailyTrivia

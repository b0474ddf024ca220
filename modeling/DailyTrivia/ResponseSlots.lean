import DailyTrivia.DocumentWrites
import DailyTrivia.TaskFlow

/-!
The slots of the response documents. A response is written to the slot of the day it is
submitted on, with the date of the question that was loaded, and the reader discards a
document whose date is not its slot.

`SlotKept` says that the question on screen is today's when its answer is submitted, and
that no other response has taken the slot when the answer is written. Then every response
is dated by its slot, and stays what was submitted.
-/
namespace DailyTrivia

open Documents Runs

/-- The date field of a question is the id of its document. -/
def QuizDated (w : World) : Prop :=
  ∀ day document question, get w.store.documents (questionRef day) = some document →
    TriviaQuestion.decode document = some question → question.date = day

/-- Every response sits in the slot of its own day. -/
structure OwnSlot (platform : Platform) (allowed : World → Action → Prop) : Prop where
  dated : ∀ (start after : World) (actions : List Action) (username slot : String)
    (document : Doc), Initial start → QuizDated start →
    Run (step platform) allowed start actions after →
    get after.store.documents (responseRef username slot) = some document →
    document.string "date" = some slot
  /-- After a completed `submitAnswer`, a fresh game view that checks the slot of that day has
  what was submitted. -/
  reread : ∀ (start before later : World) (actions more : List Action) (number site v : ℕ)
    (question : TriviaQuestion) (answerText username today : String) (d : Device) (fresh : ℕ),
    Initial start → QuizDated start → Run (step platform) allowed start actions before →
    before.pool number =
      some ⟨site, .submit v (.writeResponse question answerText username today),
        .answered .written⟩ →
    Run (step platform) allowed before more later → d.views fresh = some {} →
    (((LoadTask.readResponse username today).resume platform fresh
      (.snapshot (get later.store.documents (responseRef username today))) d).1.views fresh).bind
        TriviaGameView.submittedAnswer = some (submitted platform question answerText)

/-- An answer is submitted to a question of the day, and written to a slot that is empty. -/
structure SlotKept (platform : Platform) (w : World) (action : Action) : Prop where
  current : ∀ number site v reply view question, action = .resume number →
    w.pool number = some ⟨site, .submit v .submitAnswer, .answered reply⟩ →
    (w.sites site).views v = some view → view.currentQuestion = some question →
    question.date = platform.dateFormattedForDb (w.sites site).day
  empty : ∀ number site v question answerText username today, action = .serve number →
    w.pool number =
      some ⟨site, .submit v (.writeResponse question answerText username today), .issued⟩ →
    get w.store.documents (responseRef username today) = none

/-- Stored and pending responses are dated by their slot, and a written one is stored. -/
structure Slotted (platform : Platform) (w : World) : Prop where
  stored : ∀ username slot document,
    get w.store.documents (responseRef username slot) = some document →
    document.string "date" = some slot
  pending : ∀ number site phase v question answerText username slot, w.pool number =
    some ⟨site, .submit v (.writeResponse question answerText username slot), phase⟩ →
    question.date = slot
  written : ∀ number site v question answerText username slot, w.pool number =
    some ⟨site, .submit v (.writeResponse question answerText username slot), .answered .written⟩ →
    get w.store.documents (responseRef username slot) =
      some (responseData platform question answerText username)

variable {platform : Platform} {w w' : World} {action : Action} {username slot : String}
variable {document : Doc}

/-- A response that is stored is not overwritten. -/
theorem response_stays (moved : Move platform w action w') (kept : SlotKept platform w action)
    (stored : get w.store.documents (responseRef username slot) = some document) :
    get w'.store.documents (responseRef username slot) = some document := by
  rcases moved.store with same | ⟨number, site, task, reply, rfl, held, served⟩
  · rw [same]
    exact stored
  · rcases serve_response served username slot with
      same | ⟨v, question, answerText, rfl, _⟩
    · exact same.trans stored
    · have empty := kept.empty number site v question answerText username slot rfl held
      rw [stored] at empty
      cases empty

theorem pending_step (moved : Move platform w action w') (kept : SlotKept platform w action)
    (slotted : Slotted platform w) {number site v : ℕ} {phase : Async.Phase Reply}
    {question : TriviaQuestion} {answerText : String}
    (present : w'.pool number =
      some ⟨site, .submit v (.writeResponse question answerText username slot), phase⟩) :
    question.date = slot := by
  cases moved.pool present with
  | kept held => exact slotted.pending _ _ _ _ _ _ _ _ held
  | spawned reacted => cases begins_of_react reacted
  | served held => exact slotted.pending _ _ _ _ _ _ _ _ held
  | failed held => exact slotted.pending _ _ _ _ _ _ _ _ held
  | resumed held resumed =>
    cases continues_of_resume resumed with
    | answer shown _ asked _ => exact kept.current _ _ _ _ _ _ rfl held shown asked

theorem written_step (moved : Move platform w action w') (kept : SlotKept platform w action)
    (slotted : Slotted platform w) {number site v : ℕ} {question : TriviaQuestion}
    {answerText : String}
    (present : w'.pool number = some
      ⟨site, .submit v (.writeResponse question answerText username slot), .answered .written⟩) :
    get w'.store.documents (responseRef username slot) =
      some (responseData platform question answerText username) := by
  cases moved.pool present with
  | kept held => exact response_stays moved kept (slotted.written _ _ _ _ _ _ _ held)
  | served held served =>
    obtain ⟨backend, _⟩ := Prod.mk.inj (Option.some.inj served)
    rw [← backend]
    exact get_set_self

theorem slotted_step (moved : Move platform w action w') (kept : SlotKept platform w action)
    (slotted : Slotted platform w) : Slotted platform w' where
  stored username slot document stored := by
    rcases moved.store with same | ⟨number, site, task, reply, rfl, held, served⟩
    · exact slotted.stored username slot document (same ▸ stored)
    · rcases serve_response served username slot with
        same | ⟨v, question, answerText, rfl, wrote⟩
      · exact slotted.stored username slot document (same ▸ stored)
      · rw [wrote] at stored
        cases stored
        have dated := slotted.pending number site _ v question answerText username slot held
        exact congrArg some dated
  pending _ _ _ _ _ _ _ _ present := pending_step moved kept slotted present
  written _ _ _ _ _ _ _ present := written_step moved kept slotted present

theorem slotted_of_initial {start : World} (initial : Initial start) : Slotted platform start where
  stored username slot document stored := by
    rw [initial.noDocument (responseRef username slot) (by simp [responseRef])] at stored
    cases stored
  pending _ _ _ _ _ _ _ _ present := by simp [initial.noJob] at present
  written _ _ _ _ _ _ _ present := by simp [initial.noJob] at present

theorem slotted_run {start after : World} {actions : List Action} (initial : Initial start)
    (run : Run (step platform) (SlotKept platform) start actions after) : Slotted platform after :=
  run.invariant (Slotted platform) (slotted_of_initial initial)
    fun _ _ _ slotted kept moved => slotted_step (Async.move_of_step moved) kept slotted

/-- A game view that reads a response dated by its slot shows it as it was submitted. -/
theorem reread_response {d : Device} {fresh : ℕ} {question : TriviaQuestion} {answerText : String}
    (dated : question.date = slot) (shown : d.views fresh = some {}) :
    (((LoadTask.readResponse username slot).resume platform fresh
      (.snapshot (some (responseData platform question answerText username))) d).1.views fresh).bind
        TriviaGameView.submittedAnswer = some (submitted platform question answerText) := by
  have date : (responseData platform question answerText username).string "date" = some slot :=
    congrArg some dated
  simp [LoadTask.resume, Device.checkResponseExists, date, decode_responseData,
    Device.finishLoading, Device.onView, shown]

/-- Every response is in its own slot, and stays there, as long as questions are answered on
their day and no slot is written twice. -/
theorem ownSlot_of_slotKept (platform : Platform) : OwnSlot platform (SlotKept platform) where
  dated start after actions username slot document initial _ run :=
    (slotted_run initial run).stored username slot document
  reread start before later actions more number site v question answerText username today d fresh
      initial _ run present more shown := by
    have slotted := slotted_run initial run
    have stored := more.invariant
      (fun w => get w.store.documents (responseRef username today) =
        some (responseData platform question answerText username))
      (slotted.written _ _ _ _ _ _ _ present)
      (fun _ _ _ stored kept moved => response_stays (Async.move_of_step moved) kept stored)
    rw [stored]
    exact reread_response (slotted.pending _ _ _ _ _ _ _ _ present) shown

theorem quizDated_firstLaunch (quiz : List TriviaQuestion) : QuizDated (firstLaunch quiz) := by
  intro day document question stored decoded
  induction quiz with
  | nil => cases stored
  | cons first rest ih =>
    by_cases here : day = first.date
    · subst here
      cases (AList.lookup_insert _).symm.trans stored
      cases decoded
      rfl
    · exact ih ((AList.lookup_insert_ne here).symm.trans stored)

/-- The question of the first day is answered after midnight. -/
def answeredLate : List Action :=
  signUp 0 "ann@example.com" "annie" ++
  ([.react 0 .midnight 0, .react 0 (.tapSubmitAnswer 0 "Paris") 0] : List Action) ++ advance 0 ++
  ([.serve 0] : List Action)

theorem answeredLate_misdated :
    ((execute (step march) (firstLaunch [capital]) answeredLate).bind fun after =>
      get after.store.documents (responseRef "annie" "20250302")).map (·.string "date") =
      some (some "20250301") := by
  decide +kernel

/-- A response can be stored under a day that is not its date. -/
theorem not_ownSlot : ¬ OwnSlot march Any := by
  intro claim
  obtain ⟨document, found, misdated⟩ := Option.map_eq_some_iff.mp answeredLate_misdated
  obtain ⟨after, ran, stored⟩ := Option.bind_eq_some_iff.mp found
  have dated := claim.dated (firstLaunch [capital]) after answeredLate "annie" "20250302" document
    (initial_firstLaunch _) (quizDated_firstLaunch _) (.of_execute (fun _ _ _ => trivial) ran) stored
  rw [misdated] at dated
  revert dated
  decide

end DailyTrivia

import DailyTrivia.DocumentWrites
import DailyTrivia.GameViews

/-!
One counted answer per username and day. The only gate is the loading of the game view: it
reads the slot of the day, and a view that shows an answer offers no submission. The write
itself overwrites.

`Ledger` records what the claim speaks of, the responses written and counted, and which
slot each view has read since it began to load. `Gated` says that a submission takes a slot
its view has read, that the loading is over, and that no other write to the slot is out.
Then a slot is written once.
-/
namespace DailyTrivia

open Documents Runs Function

/-- A username and a day. -/
abbrev Slot := String × String

def slotRef (slot : Slot) : DocumentRef := responseRef slot.1 slot.2

/-- What has happened to the slots. -/
structure Ledger where
  /-- The slots of the responses that were written, in order. -/
  recorded : List Slot := []
  /-- The slots of the responses whose streak update has begun, in order. -/
  counted : List Slot := []
  /-- The slot that the loading of a view has read, by site and view, while it is not written. -/
  checked : ℕ × ℕ → Option Slot := fun _ => none

namespace Ledger

/-- A username that is chosen needs no loading, if nothing is stored for it on that day. -/
def serve (platform : Platform) (ledger : Ledger) (w : World) (site : ℕ) : Task → Ledger
  | .load v (.readResponse username today) =>
    { ledger with checked := update ledger.checked (site, v) (some (username, today)) }
  | .enterUsername v (.writeUsername _ username) =>
    let slot := (username, platform.dateFormattedForDb (w.sites site).day)
    if (get w.store.documents (slotRef slot)).isNone then
      { ledger with checked := update ledger.checked (site, v) (some slot) }
    else ledger
  | .submit _ (.writeResponse _ _ username today) =>
    { ledger with
      recorded := ledger.recorded ++ [(username, today)]
      checked := fun screen => (ledger.checked screen).filter (· != (username, today)) }
  | _ => ledger

def resume (ledger : Ledger) (site : ℕ) : Task → Reply → Ledger
  | .load v .refreshData, _ => { ledger with checked := update ledger.checked (site, v) none }
  | .submit _ (.writeResponse _ _ username today), .written =>
    { ledger with counted := ledger.counted ++ [(username, today)] }
  | _, _ => ledger

def observe (platform : Platform) (ledger : Ledger) (w : World) : Action → Ledger
  | .serve number =>
    match w.pool number with
    | some ⟨site, task, .issued⟩ => ledger.serve platform w site task
    | _ => ledger
  | .resume number =>
    match w.pool number with
    | some ⟨site, task, .answered reply⟩ => ledger.resume site task reply
    | _ => ledger
  | .restart site =>
    { ledger with checked := fun screen => if screen.1 = site then none else ledger.checked screen }
  | .react _ _ _ | .fail _ => ledger

end Ledger

/-- The app and its ledger. -/
abbrev ledgerStep (platform : Platform) : World × Ledger → Action → Option (World × Ledger) :=
  Observed (step platform) (Ledger.observe platform)

/-- Once a response is stored, no later submission for its slot is carried out. -/
structure OneAnswer (platform : Platform) (allowed : World × Ledger → Action → Prop) : Prop where
  /-- No slot is written twice, and no slot is counted twice. -/
  once : ∀ (start : World) (after : World × Ledger) (actions : List Action), Initial start →
    Run (ledgerStep platform) allowed (start, {}) actions after →
    after.2.recorded.Nodup ∧ after.2.counted.Nodup
  /-- The recorded answer and outcome are never overwritten. -/
  kept : ∀ (start : World) (before after : World × Ledger) (actions : List Action)
    (action : Action) (slot : Slot) (document : Doc), Initial start →
    Run (ledgerStep platform) allowed (start, {}) actions before → allowed before action →
    ledgerStep platform before action = some after →
    get before.1.store.documents (slotRef slot) = some document →
    get after.1.store.documents (slotRef slot) = some document

/-- The submission of view `v` goes on to write a response to a slot. -/
def Takes (platform : Platform) (w : World) (action : Action) (site v : ℕ)
    (question : TriviaQuestion) (slot : Slot) : Prop :=
  ∃ number reply view, action = .resume number ∧
    w.pool number = some ⟨site, .submit v .submitAnswer, .answered reply⟩ ∧
    (w.sites site).views v = some view ∧
    (isBlank view.answerText && !view.warnedAboutEmptyAnswer) = false ∧
    view.currentQuestion = some question ∧ (w.sites site).username = some slot.1 ∧
    slot.2 = platform.dateFormattedForDb (w.sites site).day

/-- A write of a response to a slot, out or done. -/
def Writing (w : World) (number : ℕ) (question : TriviaQuestion) (slot : Slot)
    (phase : Async.Phase Reply) : Prop :=
  ∃ site v answerText, w.pool number =
    some ⟨site, .submit v (.writeResponse question answerText slot.1 slot.2), phase⟩

/-- The gate has done its work for a slot. -/
structure Ready (s : World × Ledger) (site v : ℕ) (question : TriviaQuestion) (slot : Slot) :
    Prop where
  /-- The loading of the view has read the slot, and nobody has written it since. -/
  checked : s.2.checked (site, v) = some slot
  /-- No loading of the view is under way. -/
  loaded : ∀ number task phase, s.1.pool number ≠ some ⟨site, .load v task, phase⟩
  /-- The view shows no answer. -/
  unanswered : (s.1.sites site).submittedAnswer v = none
  /-- The question is of the day of the slot. -/
  current : question.date = slot.2
  /-- No other write to the slot is out. -/
  only : ∀ number question, ¬ Writing s.1 number question slot .issued

/-- A submission takes a slot only when the gate has done its work for it. -/
def Gated (platform : Platform) (s : World × Ledger) (action : Action) : Prop :=
  ∀ site v question slot, Takes platform s.1 action site v question slot →
    Ready s site v question slot

/-- The document is dated by its slot and decodes. -/
def Dated (slot : Slot) (document : Doc) : Prop :=
  document.string "date" = some slot.2 ∧ (SubmittedAnswer.decode document).isSome = true

/-- The slots, the writes to them and the ledger agree. -/
structure Answers (w : World) (ledger : Ledger) : Prop where
  stored : ∀ slot document, get w.store.documents (slotRef slot) = some document →
    Dated slot document
  recorded : ∀ slot, slot ∈ ledger.recorded ↔
    (get w.store.documents (slotRef slot)).isSome = true
  dated : ∀ number question slot, Writing w number question slot .issued → question.date = slot.2
  free : ∀ number question slot, Writing w number question slot .issued →
    get w.store.documents (slotRef slot) = none
  single : ∀ number number' question question' slot, Writing w number question slot .issued →
    Writing w number' question' slot .issued → number = number'
  written : ∀ number question slot, Writing w number question slot (.answered .written) →
    slot ∈ ledger.recorded ∧ slot ∉ ledger.counted
  unique : ∀ number number' question question' slot,
    Writing w number question slot (.answered .written) →
    Writing w number' question' slot (.answered .written) → number = number'
  counted : ∀ slot, slot ∈ ledger.counted → slot ∈ ledger.recorded
  once : ledger.recorded.Nodup
  onceCounted : ledger.counted.Nodup

/-- What a checked view will show, once its loading is over: the answer in the slot, if there
is one. -/
def Shows (w : World) (site v : ℕ) (slot : Slot) : Prop :=
  get w.store.documents (slotRef slot) = none ∨
  ((w.sites site).submittedAnswer v).isSome = true ∨
  ∃ number document, Dated slot document ∧ w.pool number =
    some ⟨site, .load v (.readResponse slot.1 slot.2), .answered (.snapshot (some document))⟩

/-- The views of the tasks are there, and the checked ones show what is in their slots. -/
structure Gate (w : World) (ledger : Ledger) : Prop where
  viewed : ∀ number site task phase v, w.pool number = some ⟨site, task, phase⟩ →
    task.view = some v → ((w.sites site).views v).isSome = true
  there : ∀ site v slot, ledger.checked (site, v) = some slot →
    ((w.sites site).views v).isSome = true
  shows : ∀ site v slot, ledger.checked (site, v) = some slot → Shows w site v slot

variable {platform : Platform} {w w' : World} {ledger : Ledger} {action : Action}
variable {number site v : ℕ} {question : TriviaQuestion} {slot : Slot} {task : Task}
variable {reply : Reply} {phase : Async.Phase Reply}

/-! ## What a step does to the writes, the slots and the ledger -/

/-- A write that is out was out, or is the one a submission has just taken its slot with. -/
theorem writing_issued (moved : Move platform w action w')
    (writing : Writing w' number question slot .issued) :
    (Writing w number question slot .issued ∧ action.moved ≠ some number) ∨
    (action = .resume number ∧ ∃ site v, Takes platform w action site v question slot) := by
  obtain ⟨username, today⟩ := slot
  obtain ⟨site, v, answerText, present⟩ := writing
  cases moved.pool present with
  | kept held unmoved => exact .inl ⟨⟨site, v, answerText, held⟩, unmoved⟩
  | spawned reacted => cases begins_of_react reacted
  | resumed held resumed =>
    cases continues_of_resume resumed with
    | answer shown notBlank asked named =>
      exact .inr ⟨rfl, site, v, number, _, _, rfl, held, shown, notBlank, asked, named, rfl⟩

theorem writing_written (moved : Move platform w action w')
    (writing : Writing w' number question slot (.answered .written)) :
    (Writing w number question slot (.answered .written) ∧ action.moved ≠ some number) ∨
    (action = .serve number ∧ Writing w number question slot .issued) := by
  obtain ⟨site, v, answerText, present⟩ := writing
  cases moved.pool present with
  | kept held unmoved => exact .inl ⟨⟨site, v, answerText, held⟩, unmoved⟩
  | served held served => exact .inr ⟨rfl, site, v, answerText, held⟩

/-- A slot that changes is written by a response dated by its question. -/
theorem slot_step (moved : Move platform w action w') (slot : Slot) :
    get w'.store.documents (slotRef slot) = get w.store.documents (slotRef slot) ∨
    ∃ number question document, action = .serve number ∧
      Writing w number question slot .issued ∧
      get w'.store.documents (slotRef slot) = some document ∧
      (question.date = slot.2 → Dated slot document) := by
  rcases moved.store with same | ⟨number, site, task, reply, rfl, held, served⟩
  · exact .inl (by rw [same])
  · rcases serve_response served slot.1 slot.2 with same | ⟨v, question, answerText, rfl, wrote⟩
    · exact .inl same
    · refine .inr ⟨number, question, _, rfl, ⟨site, v, answerText, held⟩, wrote, fun dated => ?_⟩
      exact ⟨congrArg some dated, rfl⟩

/-- A slot is recorded when a response is written to it. -/
theorem recorded_step (platform : Platform) (w : World) (ledger : Ledger) (action : Action) :
    ((ledger.observe platform w action).recorded = ledger.recorded ∧
      ∀ number question slot, action = .serve number →
        ¬ Writing w number question slot .issued) ∨
    ∃ number question slot, action = .serve number ∧ Writing w number question slot .issued ∧
      (ledger.observe platform w action).recorded = ledger.recorded ++ [slot] := by
  by_cases writes : ∃ number question slot, action = .serve number ∧
      Writing w number question slot .issued
  · obtain ⟨number, question, slot, rfl, site, v, answerText, held⟩ := writes
    refine .inr ⟨number, question, slot, rfl, ⟨site, v, answerText, held⟩, ?_⟩
    simp [Ledger.observe, held, Ledger.serve]
  · refine .inl ⟨?_, fun number question slot same writing =>
      writes ⟨number, question, slot, same, writing⟩⟩
    cases action with
    | serve number =>
      simp only [Ledger.observe]
      split
      · rename_i site task held
        simp only [Ledger.serve]
        split
        · rfl
        · split <;> rfl
        · exact absurd ⟨number, _, (_, _), rfl, _, _, _, held⟩ writes
        · rfl
      · rfl
    | resume number =>
      simp only [Ledger.observe]
      split
      · simp only [Ledger.resume]
        split <;> rfl
      · rfl
    | _ => rfl

/-- A slot is counted when the submission goes on from its write. -/
theorem counted_step (platform : Platform) (w : World) (ledger : Ledger) (action : Action) :
    (ledger.observe platform w action).counted = ledger.counted ∨
    ∃ number question slot, action = .resume number ∧
      Writing w number question slot (.answered .written) ∧
      (ledger.observe platform w action).counted = ledger.counted ++ [slot] := by
  cases action with
  | serve number =>
    simp only [Ledger.observe]
    split
    · simp only [Ledger.serve]
      split
      · exact .inl rfl
      · split <;> exact .inl rfl
      · exact .inl rfl
      · exact .inl rfl
    · exact .inl rfl
  | resume number =>
    simp only [Ledger.observe]
    split
    · rename_i site task reply held
      simp only [Ledger.resume]
      split
      · exact .inl rfl
      · exact .inr ⟨number, _, (_, _), rfl, ⟨_, _, _, held⟩, rfl⟩
      · exact .inl rfl
    · exact .inl rfl
  | _ => exact .inl rfl

theorem checked_serve {here : ℕ}
    (checked : (ledger.serve platform w here task).checked (site, v) = some slot) :
    (here = site ∧ task = .load v (.readResponse slot.1 slot.2)) ∨
    (here = site ∧ (∃ key, task = .enterUsername v (.writeUsername key slot.1)) ∧
      get w.store.documents (slotRef slot) = none) ∨
    (ledger.checked (site, v) = some slot ∧ ∀ u question answerText,
      task ≠ .submit u (.writeResponse question answerText slot.1 slot.2)) := by
  unfold Ledger.serve at checked
  split at checked
  · rcases Async.update_some checked with ⟨⟨⟩, ⟨⟩⟩ | ⟨_, checked⟩
    · exact .inl ⟨rfl, rfl⟩
    · exact .inr (.inr ⟨checked, nofun⟩)
  · dsimp only at checked
    split at checked
    · rcases Async.update_some checked with ⟨⟨⟩, ⟨⟩⟩ | ⟨_, checked⟩
      · exact .inr (.inl ⟨rfl, ⟨_, rfl⟩, Option.isNone_iff_eq_none.mp ‹_›⟩)
      · exact .inr (.inr ⟨checked, nofun⟩)
    · exact .inr (.inr ⟨checked, nofun⟩)
  · obtain ⟨checked, other⟩ := Option.filter_eq_some_iff.mp checked
    refine .inr (.inr ⟨checked, ?_⟩)
    rintro u question answerText ⟨⟩
    simp at other
  · rename_i other
    refine .inr (.inr ⟨checked, ?_⟩)
    rintro u question answerText rfl
    exact other _ _ _ _ _ rfl

theorem checked_resume {here : ℕ}
    (checked : (ledger.resume here task reply).checked (site, v) = some slot) :
    ledger.checked (site, v) = some slot ∧ (here = site → task ≠ .load v .refreshData) := by
  unfold Ledger.resume at checked
  split at checked
  · rcases Async.update_some checked with ⟨_, ⟨⟩⟩ | ⟨other, checked⟩
    refine ⟨checked, ?_⟩
    rintro rfl ⟨⟩
    exact other rfl
  · exact ⟨checked, nofun⟩
  · rename_i other _
    refine ⟨checked, ?_⟩
    rintro rfl rfl
    exact other _ rfl

/-- A view has checked a slot in this step, or had before and the slot is not written. -/
theorem checked_step
    (checked : (ledger.observe platform w action).checked (site, v) = some slot) :
    (∃ number, action = .serve number ∧
      w.pool number = some ⟨site, .load v (.readResponse slot.1 slot.2), .issued⟩) ∨
    (∃ number key, action = .serve number ∧
      w.pool number = some ⟨site, .enterUsername v (.writeUsername key slot.1), .issued⟩ ∧
      get w.store.documents (slotRef slot) = none) ∨
    (ledger.checked (site, v) = some slot ∧ action ≠ .restart site ∧
      (∀ number question, action = .serve number → ¬ Writing w number question slot .issued) ∧
      ∀ number reply, action = .resume number →
        w.pool number ≠ some ⟨site, .load v .refreshData, .answered reply⟩) := by
  cases action with
  | serve number =>
    simp only [Ledger.observe] at checked
    split at checked
    · rename_i here task held
      rcases checked_serve checked with ⟨rfl, rfl⟩ | ⟨rfl, ⟨key, rfl⟩, free⟩ | ⟨checked, other⟩
      · exact .inl ⟨number, rfl, held⟩
      · exact .inr (.inl ⟨number, key, rfl, held, free⟩)
      · refine .inr (.inr ⟨checked, nofun, ?_, nofun⟩)
        rintro _ question ⟨⟩ ⟨_, _, _, writing⟩
        rw [held] at writing
        cases writing
        exact other _ _ _ rfl
    · rename_i other
      refine .inr (.inr ⟨checked, nofun, ?_, nofun⟩)
      rintro _ question ⟨⟩ ⟨_, _, _, writing⟩
      exact other _ _ writing
  | resume number =>
    simp only [Ledger.observe] at checked
    split at checked
    · rename_i here task reply held
      obtain ⟨checked, other⟩ := checked_resume checked
      refine .inr (.inr ⟨checked, nofun, nofun, ?_⟩)
      rintro _ reply ⟨⟩ loading
      rw [held] at loading
      cases loading
      exact other rfl rfl
    · rename_i other
      refine .inr (.inr ⟨checked, nofun, nofun, ?_⟩)
      rintro _ reply ⟨⟩ loading
      exact other _ _ _ loading
  | restart here =>
    simp only [Ledger.observe] at checked
    split at checked
    · cases checked
    · refine .inr (.inr ⟨checked, ?_, nofun, nofun⟩)
      rintro ⟨⟩
      exact ‹¬ _› rfl
  | _ => exact .inr (.inr ⟨checked, nofun, nofun, nofun⟩)

/-! ## The slots -/

/-- What the gate of a view says about a slot. -/
theorem slot_free (gate : Gate w ledger) (ready : Ready (w, ledger) site v question slot) :
    get w.store.documents (slotRef slot) = none := by
  rcases gate.shows site v slot ready.checked with free | answered | ⟨number, _, _, loading⟩
  · exact free
  · rw [ready.unanswered] at answered
    cases answered
  · exact absurd loading (ready.loaded number _ _)

/-- The slot of a write that stays out is not written. -/
theorem slot_still (moved : Move platform w action w') (answers : Answers w ledger)
    (writing : Writing w number question slot .issued) (unmoved : action.moved ≠ some number) :
    get w'.store.documents (slotRef slot) = none := by
  rcases slot_step moved slot with same | ⟨other, _, _, rfl, writes, _⟩
  · exact same.trans (answers.free number question slot writing)
  · exact absurd (congrArg some (answers.single _ _ _ _ _ writes writing)) unmoved

/-- A write that is out has not been recorded. -/
theorem not_recorded_of_issued (answers : Answers w ledger)
    (writing : Writing w number question slot .issued) : slot ∉ ledger.recorded := by
  intro recorded
  have stored := (answers.recorded slot).mp recorded
  rw [answers.free number question slot writing] at stored
  cases stored

theorem stored_of_serve (moved : Move platform w (.serve number) w')
    (writing : Writing w number question slot .issued) :
    (get w'.store.documents (slotRef slot)).isSome = true := by
  obtain ⟨site, v, answerText, writing⟩ := writing
  cases moved with
  | serve held served =>
    rw [writing] at held
    cases held
    obtain ⟨stored, _⟩ := Prod.mk.inj (Option.some.inj served)
    simp only [← stored]
    exact Option.isSome_of_eq_some get_set_self

/-- A job writes to one slot. -/
theorem writing_slot {question' : TriviaQuestion} {slot' : Slot} {phase' : Async.Phase Reply}
    (writing : Writing w number question slot phase)
    (writing' : Writing w number question' slot' phase') : slot = slot' := by
  obtain ⟨_, _, _, writing⟩ := writing
  obtain ⟨_, _, _, writing'⟩ := writing'
  rw [writing] at writing'
  simp only [Option.some.injEq, Async.Job.mk.injEq, Task.submit.injEq,
    SubmitTask.writeResponse.injEq] at writing'
  exact Prod.ext writing'.2.1.2.2.2.1 writing'.2.1.2.2.2.2

theorem recorded_mono (recorded : slot ∈ ledger.recorded) :
    slot ∈ (ledger.observe platform w action).recorded := by
  rcases recorded_step platform w ledger action with ⟨same, _⟩ | ⟨_, _, _, _, _, appended⟩
  · rwa [same]
  · rw [appended]
    exact List.mem_append_left _ recorded

/-- What is stored after a step is recorded after it. -/
theorem recorded_iff (moved : Move platform w action w') (answers : Answers w ledger)
    (slot : Slot) : slot ∈ (ledger.observe platform w action).recorded ↔
      (get w'.store.documents (slotRef slot)).isSome = true := by
  rcases recorded_step platform w ledger action with ⟨same, silent⟩ |
    ⟨number, question, written, rfl, writing, appended⟩
  · rcases slot_step moved slot with kept | ⟨number, question, _, rfl, writing, _⟩
    · rw [same, kept, answers.recorded slot]
    · exact absurd writing (silent number question slot rfl)
  · have stored := stored_of_serve moved writing
    rw [appended, List.mem_append, List.mem_singleton, answers.recorded slot]
    rcases slot_step moved slot with kept | ⟨_, _, _, ⟨⟩, writing', wrote, _⟩
    · rw [kept]
      refine ⟨?_, .inl⟩
      rintro (before | rfl)
      · exact before
      · rwa [← kept]
    · have same := writing_slot writing' writing
      simp [same, stored]

theorem answers_step (moved : Move platform w action w') (gated : Gated platform (w, ledger) action)
    (gate : Gate w ledger) (answers : Answers w ledger) :
    Answers w' (ledger.observe platform w action) where
  stored slot document stored := by
    rcases slot_step moved slot with same | ⟨number, question, wrote, rfl, writing, now, dated⟩
    · exact answers.stored slot document (same ▸ stored)
    · rw [now] at stored
      cases stored
      exact dated (answers.dated number question slot writing)
  recorded := recorded_iff moved answers
  dated number question slot writing := by
    rcases writing_issued moved writing with ⟨writing, _⟩ | ⟨_, site, v, takes⟩
    · exact answers.dated number question slot writing
    · exact (gated site v question slot takes).current
  free number question slot writing := by
    rcases writing_issued moved writing with ⟨writing, unmoved⟩ | ⟨rfl, site, v, takes⟩
    · exact slot_still moved answers writing unmoved
    · rcases slot_step moved slot with same | ⟨_, _, _, served, _⟩
      · exact same.trans (slot_free gate (gated site v question slot takes))
      · cases served
  single number number' question question' slot writing writing' := by
    rcases writing_issued moved writing with ⟨writing, _⟩ | ⟨rfl, site, v, takes⟩ <;>
      rcases writing_issued moved writing' with ⟨writing', _⟩ | ⟨same, site', v', takes'⟩
    · exact answers.single number number' question question' slot writing writing'
    · exact absurd writing ((gated site' v' question' slot takes').only number question)
    · exact absurd writing' ((gated site v question slot takes).only number' question')
    · cases same
      rfl
  written number question slot writing := by
    rcases writing_written moved writing with ⟨writing, unmoved⟩ | ⟨rfl, writing⟩
    · obtain ⟨recorded, uncounted⟩ := answers.written number question slot writing
      refine ⟨recorded_mono recorded, ?_⟩
      rcases counted_step platform w ledger action with same | ⟨other, _, _, rfl, counts, appended⟩
      · rwa [same]
      · rw [appended, List.mem_append, List.mem_singleton]
        rintro (counted | rfl)
        · exact uncounted counted
        · exact unmoved (congrArg some (answers.unique _ _ _ _ _ counts writing))
    · refine ⟨(recorded_iff moved answers slot).mpr (stored_of_serve moved writing), ?_⟩
      rcases counted_step platform w ledger (.serve number) with same | ⟨_, _, _, resumes, _⟩
      · rw [same]
        exact fun counted => not_recorded_of_issued answers writing (answers.counted slot counted)
      · cases resumes
  unique number number' question question' slot writing writing' := by
    rcases writing_written moved writing with ⟨writing, _⟩ | ⟨rfl, writing⟩ <;>
      rcases writing_written moved writing' with ⟨writing', _⟩ | ⟨same, writing'⟩
    · exact answers.unique number number' question question' slot writing writing'
    · exact absurd (answers.written _ _ _ writing).1 (not_recorded_of_issued answers writing')
    · exact absurd (answers.written _ _ _ writing').1 (not_recorded_of_issued answers writing)
    · cases same
      rfl
  counted slot counted := by
    rcases counted_step platform w ledger action with same | ⟨_, _, _, _, counts, appended⟩
    · rw [same] at counted
      exact recorded_mono (answers.counted slot counted)
    · rw [appended, List.mem_append, List.mem_singleton] at counted
      rcases counted with counted | rfl
      · exact recorded_mono (answers.counted slot counted)
      · exact recorded_mono (answers.written _ _ _ counts).1
  once := by
    rcases recorded_step platform w ledger action with ⟨same, _⟩ | ⟨_, _, _, _, writing, appended⟩
    · rw [same]
      exact answers.once
    · rw [appended, ← List.concat_eq_append]
      exact List.Nodup.concat (not_recorded_of_issued answers writing) answers.once
  onceCounted := by
    rcases counted_step platform w ledger action with same | ⟨_, _, _, _, counts, appended⟩
    · rw [same]
      exact answers.onceCounted
    · rw [appended, ← List.concat_eq_append]
      exact List.Nodup.concat (answers.written _ _ _ counts).2 answers.onceCounted

/-! ## The gate -/

/-- A view is there as long as the process runs. -/
theorem views_step (moved : Move platform w action w') (running : action ≠ .restart site)
    (there : ((w.sites site).views v).isSome = true) :
    ((w'.sites site).views v).isSome = true := by
  cases moved.memory site with
  | kept same => rwa [same]
  | reacted reacted =>
    have changes : Changes v True True (w.sites site) (w'.sites site) := react_changes' reacted there
    exact changes.views there
  | resumed _ resumed =>
    have changes : Changes v False False (w.sites site) (w'.sites site) :=
      resume_changes resumed nofun nofun
    exact changes.views there
  | restarted _ => exact absurd rfl running

/-- An answer is shown until the view is loaded anew. -/
theorem answers_shown (moved : Move platform w action w') (running : action ≠ .restart site)
    (loading : ∀ number reply, action = .resume number →
      w.pool number ≠ some ⟨site, .load v .refreshData, .answered reply⟩)
    (there : ((w.sites site).views v).isSome = true)
    (shows : ((w.sites site).submittedAnswer v).isSome = true) :
    ((w'.sites site).submittedAnswer v).isSome = true := by
  cases moved.memory site with
  | kept same => rwa [same]
  | reacted reacted =>
    have changes : Changes v True True (w.sites site) (w'.sites site) := react_changes' reacted there
    exact changes.answers trivial shows
  | @resumed number task reply _ held resumed =>
    have changes : Changes v True False (w.sites site) (w'.sites site) := by
      refine resume_changes resumed (fun _ refresh => loading number reply rfl ?_) nofun
      rw [held, refresh]
    exact changes.answers trivial shows
  | restarted _ => exact absurd rfl running

/-- The views of the tasks stay there. -/
theorem viewed_step (moved : Move platform w action w') (gate : Gate w ledger)
    (present : w'.pool number = some ⟨site, task, phase⟩) (belongs : task.view = some v) :
    ((w'.sites site).views v).isSome = true := by
  have running : action ≠ .restart site := moved.running present
  cases moved.pool present with
  | kept held _ => exact views_step moved running (gate.viewed _ _ _ _ _ held belongs)
  | spawned reacted => exact views_of_react reacted belongs
  | served held _ => exact views_step moved running (gate.viewed _ _ _ _ _ held belongs)
  | failed held => exact views_step moved running (gate.viewed _ _ _ _ _ held belongs)
  | resumed held resumed =>
    rw [(continues_of_resume resumed).view] at belongs
    exact views_step moved running (gate.viewed _ _ _ _ _ held belongs)

/-- A loading that has read a response shows it. -/
theorem loaded_shows {d : Device} {document : Doc} (dated : Dated slot document)
    (there : (d.views v).isSome = true) {next : Option Task} {d' : Device}
    (resumed : resume platform (.load v (.readResponse slot.1 slot.2))
      (.snapshot (some document)) d = (d', next)) :
    (d'.submittedAnswer v).isSome = true := by
  obtain ⟨date, decodes⟩ := dated
  obtain ⟨answer, decoded⟩ := Option.isSome_iff_exists.mp decodes
  obtain ⟨view, shown⟩ := Option.isSome_iff_exists.mp there
  obtain rfl := congrArg Prod.fst resumed
  simp [resume, LoadTask.resume, Device.checkResponseExists, date, decoded, Device.finishLoading,
    Device.onView, Device.submittedAnswer, shown]

/-- A view that has just read its slot. -/
theorem shows_of_read (moved : Move platform w (.serve number) w') (answers : Answers w ledger)
    (held : w.pool number = some ⟨site, .load v (.readResponse slot.1 slot.2), .issued⟩) :
    Shows w' site v slot := by
  cases moved with
  | serve present served =>
    rw [held] at present
    cases present
    obtain ⟨stored, read⟩ := Prod.mk.inj (Option.some.inj served)
    subst stored read
    cases found : get w.store.documents (slotRef slot) with
    | none => exact .inl found
    | some document =>
      refine .inr (.inr ⟨number, document, answers.stored slot document found, ?_⟩)
      simp only [update_self]
      exact congrArg _ (by rw [← found]; rfl)

theorem shows_step (moved : Move platform w action w') (gate : Gate w ledger)
    (checked : ledger.checked (site, v) = some slot) (running : action ≠ .restart site)
    (unwritten : ∀ number question, action = .serve number →
      ¬ Writing w number question slot .issued)
    (loading : ∀ number reply, action = .resume number →
      w.pool number ≠ some ⟨site, .load v .refreshData, .answered reply⟩) :
    Shows w' site v slot := by
  have there := gate.there site v slot checked
  rcases gate.shows site v slot checked with free | answered | ⟨number, document, dated, held⟩
  · rcases slot_step moved slot with same | ⟨number, question, _, serves, writing, _⟩
    · exact .inl (same.trans free)
    · exact absurd writing (unwritten number question serves)
  · exact .inr (.inl (answers_shown moved running loading there answered))
  · by_cases unmoved : action.moved = some number
    · refine .inr (.inl ?_)
      cases moved with
      | resume present resumed =>
        cases unmoved
        rw [held] at present
        cases present
        simpa using loaded_shows dated there resumed
      | serve present _ | fail present =>
        cases unmoved
        rw [held] at present
        cases present
      | _ => cases unmoved
    · refine .inr (.inr ⟨number, document, dated, moved.stays held unmoved ?_⟩)
      rintro here rfl rfl
      exact running rfl

theorem gate_step (moved : Move platform w action w') (answers : Answers w ledger)
    (gate : Gate w ledger) : Gate w' (ledger.observe platform w action) where
  viewed number site task phase v present belongs := viewed_step moved gate present belongs
  there site v slot checked := by
    rcases checked_step checked with
      ⟨number, rfl, held⟩ | ⟨number, key, rfl, held, _⟩ | ⟨checked, running, _⟩
    · exact views_step moved nofun (gate.viewed _ _ _ _ _ held rfl)
    · exact views_step moved nofun (gate.viewed _ _ _ _ _ held rfl)
    · exact views_step moved running (gate.there site v slot checked)
  shows site v slot checked := by
    rcases checked_step checked with
      ⟨number, rfl, held⟩ | ⟨number, key, rfl, held, free⟩ | ⟨checked, running, unwritten, loading⟩
    · exact shows_of_read moved answers held
    · rcases slot_step moved slot with same | ⟨_, _, _, ⟨⟩, ⟨_, _, _, writing⟩, _⟩
      · exact .inl (same.trans free)
      · rw [held] at writing
        cases writing
    · exact shows_step moved gate checked running unwritten loading

/-! ## Runs -/

theorem answers_of_initial {start : World} (initial : Initial start) : Answers start {} where
  stored slot document stored := by
    rw [initial.noDocument (slotRef slot) (by simp [slotRef, responseRef])] at stored
    cases stored
  recorded slot := by simp [initial.noDocument (slotRef slot) (by simp [slotRef, responseRef])]
  dated number question slot writing := by
    obtain ⟨_, _, _, writing⟩ := writing
    simp [initial.noJob] at writing
  free number question slot writing :=
    initial.noDocument (slotRef slot) (by simp [slotRef, responseRef])
  single number number' question question' slot writing := by
    obtain ⟨_, _, _, writing⟩ := writing
    simp [initial.noJob] at writing
  written number question slot writing := by
    obtain ⟨_, _, _, writing⟩ := writing
    simp [initial.noJob] at writing
  unique number number' question question' slot writing := by
    obtain ⟨_, _, _, writing⟩ := writing
    simp [initial.noJob] at writing
  counted slot counted := by cases counted
  once := List.nodup_nil
  onceCounted := List.nodup_nil

theorem gate_of_initial {start : World} (initial : Initial start) : Gate start {} where
  viewed number site task phase v present := by simp [initial.noJob] at present
  there _ _ _ checked := by cases checked
  shows _ _ _ checked := by cases checked

theorem gated_run {start : World} {after : World × Ledger} {actions : List Action}
    (initial : Initial start)
    (run : Run (ledgerStep platform) (Gated platform) (start, {}) actions after) :
    Answers after.1 after.2 ∧ Gate after.1 after.2 := by
  refine run.invariant (fun s => Answers s.1 s.2 ∧ Gate s.1 s.2)
    ⟨answers_of_initial initial, gate_of_initial initial⟩ ?_
  rintro before action after ⟨answers, gate⟩ gated moved
  obtain ⟨moved, recorded⟩ := observed_eq_some.mp moved
  have moved := Async.move_of_step moved
  rw [← recorded]
  exact ⟨answers_step moved gated gate answers, gate_step moved answers gate⟩

/-- A slot is written and counted once, as long as submissions only take slots the gate has
done its work for. -/
theorem oneAnswer_of_gated (platform : Platform) : OneAnswer platform (Gated platform) where
  once start after actions initial run := by
    obtain ⟨answers, _⟩ := gated_run initial run
    exact ⟨answers.once, answers.onceCounted⟩
  kept start before after actions action slot document initial run gated moved stored := by
    obtain ⟨answers, _⟩ := gated_run initial run
    obtain ⟨moved, _⟩ := observed_eq_some.mp moved
    rcases slot_step (Async.move_of_step moved) slot with
      same | ⟨number, question, _, rfl, writing, _⟩
    · exact same.trans stored
    · rw [answers.free number question slot writing] at stored
      cases stored

/-- Annie answers, launches the app again and loads the question, and the read of her response
fails: she is asked again. -/
def askedAgain : List Action :=
  signUp 0 "ann@example.com" "annie" ++
  ([.react 0 (.tapSubmitAnswer 0 "Paris") 0] : List Action) ++ advance 0 ++ advance 0 ++
  advance 0 ++ advance 0 ++
  ([.restart 0, .react 0 .loginViewAppears 0] : List Action) ++ advance 0 ++ advance 0 ++
  ([.react 0 .currentUserChanges 1, .react 0 (.gameViewAppears 0) 1] : List Action) ++ advance 1 ++
  advance 1 ++ advance 1 ++ advance 1 ++
  ([.fail 1, .resume 1, .react 0 (.tapSubmitAnswer 0 "Lyon") 1] : List Action) ++ advance 1 ++
  ([.serve 1] : List Action)

theorem askedAgain_twice :
    (execute (ledgerStep march) (firstLaunch [capital], {}) askedAgain).map (·.2.recorded) =
      some [("annie", "20250301"), ("annie", "20250301")] := by
  decide +kernel

/-- A slot can be written twice. -/
theorem not_oneAnswer : ¬ OneAnswer march Any := by
  intro claim
  obtain ⟨after, ran, recorded⟩ := Option.map_eq_some_iff.mp askedAgain_twice
  have once := (claim.once (firstLaunch [capital]) after askedAgain (initial_firstLaunch _)
    (.of_execute (fun _ _ _ => trivial) ran)).1
  rw [recorded] at once
  revert once
  decide

end DailyTrivia

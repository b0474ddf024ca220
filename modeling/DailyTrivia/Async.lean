import DailyTrivia.Runs

/-!
Programs that suspend at awaited calls.

A `Machine` has numbered sites, each with its own memory, and one store behind all of
them. A task of a site is always awaiting a call. The call reaches the store in a step of
its own, and the task goes on with the reply in another, so between two awaits of one task
every other task of every site may move. A call may also fail, which leaves the store as
it is. A site may restart at any time: its tasks are gone, whether or not the store has
already acted on their calls.

`Move` is the inversion of one step: everything a step can do, with its guards. `alone` is
what a task does when nothing else moves from its first await to its end.
-/
namespace Async

open Function (update update_self update_idem update_eq_self)

/-- A task's call is out, or it is answered and the task has not yet gone on. -/
inductive Phase (Reply : Type) where
  | issued
  | answered (reply : Reply)

/-- A task in progress and the site it runs at. -/
structure Job (Task Reply : Type) where
  site : ℕ
  task : Task
  phase : Phase Reply

/-- The call a job is waiting for, unless it is answered. -/
def Job.awaited {Task Reply : Type} : Job Task Reply → Option (ℕ × Task)
  | ⟨site, task, .issued⟩ => some (site, task)
  | ⟨_, _, .answered _⟩ => none

theorem issued_of_awaited {Task Reply : Type} {job : Option (Job Task Reply)} {site : ℕ}
    {task : Task} (waiting : job.bind Job.awaited = some (site, task)) :
    job = some ⟨site, task, .issued⟩ := by
  obtain ⟨⟨_, _, phase⟩, rfl, waiting⟩ := Option.bind_eq_some_iff.mp waiting
  cases phase <;> cases waiting
  rfl

/-- What the tasks of a program do between their awaits. -/
structure Machine (Store Local Call Reply Task Event : Type) where
  /-- The call a suspended task awaits. -/
  call : Task → Call
  /-- The store's answer to a call, if it can answer it. -/
  serve : Store → Call → Option (Store × Reply)
  /-- The reply of a failed call. -/
  refused : Reply
  /-- A task's next segment: its effect on the site's memory, and the next await. -/
  resume : Task → Reply → Local → Local × Option Task
  /-- An event at a site, where it is possible: its effect and the first await of the task it
  begins. -/
  react : Event → Local → Option (Local × Option Task)
  /-- The memory a site starts again with. -/
  restart : Local → Local

/-- The store, the memory of every site and the tasks in progress. -/
structure World (Store Local Task Reply : Type) where
  store : Store
  sites : ℕ → Local
  pool : ℕ → Option (Job Task Reply)

inductive Action (Event : Type) where
  | react (site : ℕ) (event : Event) (job : ℕ)
  | serve (job : ℕ)
  | fail (job : ℕ)
  | resume (job : ℕ)
  | restart (site : ℕ)

variable {Store Local Call Reply Task Event : Type}

/-- The number of jobs in progress is unbounded; a new job takes any free number. -/
def step (M : Machine Store Local Call Reply Task Event) (w : World Store Local Task Reply) :
    Action Event → Option (World Store Local Task Reply)
  | .react site event job =>
    match M.react event (w.sites site) with
    | none => none
    | some (memory, none) => some { w with sites := update w.sites site memory }
    | some (memory, some task) =>
      match w.pool job with
      | some _ => none
      | none => some { w with
          sites := update w.sites site memory
          pool := update w.pool job (some ⟨site, task, .issued⟩) }
  | .serve job =>
    match w.pool job with
    | some ⟨site, task, .issued⟩ =>
      (M.serve w.store (M.call task)).map fun (store, reply) => { w with
        store
        pool := update w.pool job (some ⟨site, task, .answered reply⟩) }
    | _ => none
  | .fail job =>
    match w.pool job with
    | some ⟨site, task, .issued⟩ => some { w with
        pool := update w.pool job (some ⟨site, task, .answered M.refused⟩) }
    | _ => none
  | .resume job =>
    match w.pool job with
    | some ⟨site, task, .answered reply⟩ => some { w with
        sites := update w.sites site (M.resume task reply (w.sites site)).1
        pool := update w.pool job
          ((M.resume task reply (w.sites site)).2.map fun next => ⟨site, next, .issued⟩) }
    | _ => none
  | .restart site => some { w with
      sites := update w.sites site (M.restart (w.sites site))
      pool := fun job => (w.pool job).filter fun held => held.site != site }

/-- Everything one step can do. -/
inductive Move (M : Machine Store Local Call Reply Task Event) (w : World Store Local Task Reply) :
    Action Event → World Store Local Task Reply → Prop where
  | react {site job : ℕ} {event : Event} {memory : Local} :
      M.react event (w.sites site) = some (memory, none) →
      Move M w (.react site event job) { w with sites := update w.sites site memory }
  | spawn {site job : ℕ} {event : Event} {memory : Local} {task : Task} :
      M.react event (w.sites site) = some (memory, some task) → w.pool job = none →
      Move M w (.react site event job) { w with
        sites := update w.sites site memory
        pool := update w.pool job (some ⟨site, task, .issued⟩) }
  | serve {site job : ℕ} {task : Task} {store : Store} {reply : Reply} :
      w.pool job = some ⟨site, task, .issued⟩ → M.serve w.store (M.call task) = some (store, reply) →
      Move M w (.serve job) { w with
        store
        pool := update w.pool job (some ⟨site, task, .answered reply⟩) }
  | fail {site job : ℕ} {task : Task} :
      w.pool job = some ⟨site, task, .issued⟩ →
      Move M w (.fail job) { w with
        pool := update w.pool job (some ⟨site, task, .answered M.refused⟩) }
  | resume {site job : ℕ} {task : Task} {reply : Reply} {memory : Local} {next : Option Task} :
      w.pool job = some ⟨site, task, .answered reply⟩ →
      M.resume task reply (w.sites site) = (memory, next) →
      Move M w (.resume job) { w with
        sites := update w.sites site memory
        pool := update w.pool job (next.map fun next => ⟨site, next, .issued⟩) }
  | restart {site : ℕ} :
      Move M w (.restart site) { w with
        sites := update w.sites site (M.restart (w.sites site))
        pool := fun job => (w.pool job).filter fun held => held.site != site }

variable {M : Machine Store Local Call Reply Task Event}
variable {w w' : World Store Local Task Reply} {action : Action Event}

theorem move_of_step (stepped : step M w action = some w') : Move M w action w' := by
  cases action with
  | react site event job =>
    simp only [step] at stepped
    split at stepped
    · cases stepped
    · cases stepped
      exact .react ‹_›
    · split at stepped
      · cases stepped
      · cases stepped
        exact .spawn ‹_› ‹_›
  | serve job =>
    simp only [step] at stepped
    split at stepped
    · obtain ⟨⟨store, reply⟩, served, rfl⟩ := Option.map_eq_some_iff.mp stepped
      exact .serve ‹_› served
    · cases stepped
  | fail job =>
    simp only [step] at stepped
    split at stepped
    · cases stepped
      exact .fail ‹_›
    · cases stepped
  | resume job =>
    simp only [step] at stepped
    split at stepped
    · cases stepped
      exact .resume ‹_› rfl
    · cases stepped
  | restart site =>
    cases stepped
    exact .restart

/-- A step that changes the store serves one issued call. -/
theorem Move.store (move : Move M w action w') :
    w'.store = w.store ∨ ∃ job site task reply, action = .serve job ∧
      w.pool job = some ⟨site, task, .issued⟩ ∧
      M.serve w.store (M.call task) = some (w'.store, reply) := by
  cases move with
  | serve held served => exact .inr ⟨_, _, _, _, rfl, held, served⟩
  | _ => exact .inl rfl

/-- The job a step serves, fails or resumes. -/
def Action.moved : Action Event → Option ℕ
  | .serve job | .fail job | .resume job => some job
  | .react _ _ _ | .restart _ => none

/-- How a job of the pool after a step came to be there. -/
inductive Held (M : Machine Store Local Call Reply Task Event)
    (w w' : World Store Local Task Reply) : Action Event → ℕ → Job Task Reply → Prop where
  | kept {action : Action Event} {number : ℕ} {job : Job Task Reply} :
      w.pool number = some job → action.moved ≠ some number → Held M w w' action number job
  | spawned {site number : ℕ} {event : Event} {task : Task} :
      M.react event (w.sites site) = some (w'.sites site, some task) → w.pool number = none →
      Held M w w' (.react site event number) number ⟨site, task, .issued⟩
  | served {site number : ℕ} {task : Task} {reply : Reply} :
      w.pool number = some ⟨site, task, .issued⟩ →
      M.serve w.store (M.call task) = some (w'.store, reply) →
      Held M w w' (.serve number) number ⟨site, task, .answered reply⟩
  | failed {site number : ℕ} {task : Task} :
      w.pool number = some ⟨site, task, .issued⟩ →
      Held M w w' (.fail number) number ⟨site, task, .answered M.refused⟩
  | resumed {site number : ℕ} {task next : Task} {reply : Reply} :
      w.pool number = some ⟨site, task, .answered reply⟩ →
      M.resume task reply (w.sites site) = (w'.sites site, some next) →
      Held M w w' (.resume number) number ⟨site, next, .issued⟩

/-- An updated pool holds the moved job at its own number and every other job as before. -/
theorem update_some {K J : Type} [DecidableEq K] {pool : K → Option J} {job held : K}
    {moved : Option J} {j : J}
    (present : update pool job moved held = some j) :
    (held = job ∧ moved = some j) ∨ (held ≠ job ∧ pool held = some j) := by
  rw [Function.update_apply] at present
  split at present
  · exact .inl ⟨‹_›, present⟩
  · exact .inr ⟨‹_›, present⟩

/-- A restart keeps exactly the jobs of the other sites. -/
theorem restarted_some {pool : ℕ → Option (Job Task Reply)} {site held : ℕ}
    {j : Job Task Reply} :
    (pool held).filter (fun job => job.site != site) = some j ↔
      pool held = some j ∧ j.site ≠ site := by
  simp [Option.filter_eq_some_iff]

/-- One job is spawned or moved in a step; every other one is kept or gone. -/
theorem Move.pool {number : ℕ} {job : Job Task Reply} (move : Move M w action w')
    (present : w'.pool number = some job) : Held M w w' action number job := by
  cases move with
  | react _ => exact .kept present nofun
  | spawn reacted vacant =>
    rcases update_some present with ⟨rfl, ⟨⟩⟩ | ⟨_, kept⟩
    · exact .spawned (by simpa using reacted) vacant
    · exact .kept kept nofun
  | serve held served =>
    rcases update_some present with ⟨rfl, ⟨⟩⟩ | ⟨other, kept⟩
    · exact .served held served
    · exact .kept kept fun moved => other (Option.some.inj moved).symm
  | fail held =>
    rcases update_some present with ⟨rfl, ⟨⟩⟩ | ⟨other, kept⟩
    · exact .failed held
    · exact .kept kept fun moved => other (Option.some.inj moved).symm
  | @resume site moved task reply memory next held resumed =>
    rcases update_some present with ⟨rfl, gone⟩ | ⟨other, kept⟩
    · obtain ⟨task, rfl, rfl⟩ := Option.map_eq_some_iff.mp gone
      exact .resumed held (by simpa using resumed)
    · exact .kept kept fun moved => other (Option.some.inj moved).symm
  | restart => exact .kept (restarted_some.mp present).1 nofun

/-- The number an event takes for the task it begins. -/
def Action.takes : Action Event → Option ℕ
  | .react _ _ job => some job
  | .serve _ | .fail _ | .resume _ | .restart _ => none

/-- A free number stays free until an event takes it. -/
theorem free_of_run {allowed : World Store Local Task Reply → Action Event → Prop}
    {actions : List (Action Event)} {number : ℕ} (run : Runs.Run (step M) allowed w actions w')
    (free : w.pool number = none) (untaken : ∀ action ∈ actions, action.takes ≠ some number) :
    w'.pool number = none := by
  induction run with
  | nil => exact free
  | snoc _ _ moved shorter =>
    have before := shorter fun action earlier => untaken action (List.mem_append_left _ earlier)
    refine Option.eq_none_iff_forall_ne_some.mpr fun job present => ?_
    cases (move_of_step moved).pool present with
    | spawned _ => exact untaken _ (List.mem_append_right _ (List.mem_singleton_self _)) rfl
    | kept held _ | served held _ | failed held | resumed held _ =>
      rw [before] at held
      cases held

/-- No job of a site is left when it restarts. -/
theorem Move.running {number : ℕ} {job : Job Task Reply} (move : Move M w action w')
    (present : w'.pool number = some job) : action ≠ .restart job.site := by
  rintro rfl
  cases move with
  | restart => exact (restarted_some.mp present).2 rfl

/-- A job that is not moved stays, unless its site restarts. -/
theorem Move.stays {number : ℕ} {job : Job Task Reply} (move : Move M w action w')
    (held : w.pool number = some job) (unmoved : action.moved ≠ some number)
    (running : ∀ site, action = .restart site → job.site ≠ site) :
    w'.pool number = some job := by
  cases move with
  | react _ => exact held
  | @spawn _ free _ _ _ _ vacant =>
    have other : number ≠ free := by
      rintro rfl
      rw [held] at vacant
      cases vacant
    simpa [Function.update_of_ne other] using held
  | restart => exact restarted_some.mpr ⟨held, running _ rfl⟩
  | _ =>
    have other : number ≠ _ := fun same => unmoved (congrArg some same.symm)
    simpa [Function.update_of_ne other] using held

/-- What becomes of the job a step serves, fails or resumes. -/
inductive Moved (M : Machine Store Local Call Reply Task Event)
    (w w' : World Store Local Task Reply) (number : ℕ) : Job Task Reply → Action Event → Prop where
  | served {site : ℕ} {task : Task} {reply : Reply} :
      M.serve w.store (M.call task) = some (w'.store, reply) →
      w'.pool number = some ⟨site, task, .answered reply⟩ →
      Moved M w w' number ⟨site, task, .issued⟩ (.serve number)
  | failed {site : ℕ} {task : Task} :
      w'.pool number = some ⟨site, task, .answered M.refused⟩ →
      Moved M w w' number ⟨site, task, .issued⟩ (.fail number)
  | resumed {site : ℕ} {task : Task} {reply : Reply} {next : Option Task} :
      M.resume task reply (w.sites site) = (w'.sites site, next) →
      w'.pool number = next.map (⟨site, ·, .issued⟩) →
      Moved M w w' number ⟨site, task, .answered reply⟩ (.resume number)

theorem Move.moved {number : ℕ} {job : Job Task Reply} (move : Move M w action w')
    (held : w.pool number = some job) (moves : action.moved = some number) :
    Moved M w w' number job action := by
  cases move with
  | serve present served =>
    cases moves
    obtain rfl := Option.some.inj (held.symm.trans present)
    exact .served served (by simp)
  | fail present =>
    cases moves
    obtain rfl := Option.some.inj (held.symm.trans present)
    exact .failed (by simp)
  | resume present resumed =>
    cases moves
    obtain rfl := Option.some.inj (held.symm.trans present)
    exact .resumed (by simpa using resumed) (by simp)
  | _ => cases moves

/-- The task an event begins awaits its first call. -/
theorem Move.begun {site number : ℕ} {event : Event} {memory : Local} {task : Task}
    (move : Move M w (.react site event number) w')
    (reacted : M.react event (w.sites site) = some (memory, some task)) :
    w'.pool number = some ⟨site, task, .issued⟩ := by
  cases move with
  | react idle =>
    rw [reacted] at idle
    cases idle
  | spawn begins vacant =>
    rw [reacted] at begins
    cases begins
    simp

/-- The store gives this reply to the call, in some state; or the call has failed. -/
def Replies (M : Machine Store Local Call Reply Task Event) (call : Call) (reply : Reply) : Prop :=
  reply = M.refused ∨ ∃ before after, M.serve before call = some (after, reply)

/-- No job has an answer to another call than its own. -/
def AnswersFit (M : Machine Store Local Call Reply Task Event)
    (w : World Store Local Task Reply) : Prop :=
  ∀ number site task reply, w.pool number = some ⟨site, task, .answered reply⟩ →
    Replies M (M.call task) reply

theorem answersFit_step (move : Move M w action w') (fit : AnswersFit M w) : AnswersFit M w' := by
  intro number site task reply present
  cases move.pool present with
  | kept held _ => exact fit number site task reply held
  | served _ given => exact .inr ⟨w.store, w'.store, given⟩
  | failed _ => exact .inl rfl

/-- How a site's memory after a step came about. -/
inductive Memory (M : Machine Store Local Call Reply Task Event)
    (w w' : World Store Local Task Reply) (site : ℕ) : Action Event → Prop where
  | kept {action : Action Event} : w'.sites site = w.sites site → Memory M w w' site action
  | reacted {event : Event} {job : ℕ} {task : Option Task} :
      M.react event (w.sites site) = some (w'.sites site, task) →
      Memory M w w' site (.react site event job)
  | resumed {job : ℕ} {task : Task} {reply : Reply} {next : Option Task} :
      w.pool job = some ⟨site, task, .answered reply⟩ →
      M.resume task reply (w.sites site) = (w'.sites site, next) →
      Memory M w w' site (.resume job)
  | restarted : w'.sites site = M.restart (w.sites site) → Memory M w w' site (.restart site)

/-- A step changes the memory of at most one site. -/
theorem Move.memory (move : Move M w action w') (site : ℕ) : Memory M w w' site action := by
  cases move with
  | @react here job event memory reacted =>
    by_cases same : site = here
    · subst same
      exact .reacted (by simpa using reacted)
    · exact .kept (by simp [same])
  | @spawn here job event memory task reacted vacant =>
    by_cases same : site = here
    · subst same
      exact .reacted (by simpa using reacted)
    · exact .kept (by simp [same])
  | serve _ _ => exact .kept rfl
  | fail _ => exact .kept rfl
  | @resume here job task reply memory next held resumed =>
    by_cases same : site = here
    · subst same
      exact .resumed held (by simpa using resumed)
    · exact .kept (by simp [same])
  | @restart here =>
    by_cases same : site = here
    · subst same
      exact .restarted (by simp)
    · exact .kept (by simp [same])

/-! ## A task alone -/

/-- What a call is answered with: the store's answer, or the failure. -/
def answer (M : Machine Store Local Call Reply Task Event) (store : Store) (call : Call)
    (served : Bool) : Option (Store × Reply) :=
  if served then M.serve store call else some (store, M.refused)

/-- A task from an await to its end, if it has as many awaits as there are answers; the store
and the memory it leaves. -/
def alone (M : Machine Store Local Call Reply Task Event) :
    List Bool → Store → Local → Task → Option (Store × Local)
  | [], _, _, _ => none
  | served :: rest, store, memory, task =>
    (answer M store (M.call task) served).bind fun (store, reply) =>
      match (M.resume task reply memory).2 with
      | none => if rest.isEmpty then some (store, (M.resume task reply memory).1) else none
      | some next => alone M rest store (M.resume task reply memory).1 next

/-- A task alone that goes on from its next await. -/
theorem alone_goes {first : Bool} {rest : List Bool} {store middle : Store}
    {memory last : Local} {task next : Task} {reply : Reply}
    (answered : answer M store (M.call task) first = some (middle, reply))
    (resumed : M.resume task reply memory = (last, some next)) :
    alone M (first :: rest) store memory task = alone M rest middle last next := by
  simp [alone, answered, resumed]

/-- A task alone ends at its next await or goes on from there. -/
theorem alone_eq_some {M : Machine Store Local Call Reply Task Event} {served : List Bool}
    {store after : Store} {memory last : Local} {task : Task} :
    alone M served store memory task = some (after, last) ↔
    ∃ first rest middle reply, served = first :: rest ∧
      answer M store (M.call task) first = some (middle, reply) ∧
      (((M.resume task reply memory).2 = none ∧ rest = [] ∧ middle = after ∧
        (M.resume task reply memory).1 = last) ∨
      ∃ next, (M.resume task reply memory).2 = some next ∧
        alone M rest middle (M.resume task reply memory).1 next = some (after, last)) := by
  constructor
  · intro ran
    cases served with
    | nil => cases ran
    | cons first rest =>
      obtain ⟨⟨middle, reply⟩, answered, ran⟩ := Option.bind_eq_some_iff.mp ran
      refine ⟨first, rest, middle, reply, rfl, answered, ?_⟩
      cases goes : (M.resume task reply memory).2 with
      | none =>
        simp only [goes] at ran
        split at ran <;> cases ran
        exact .inl ⟨rfl, List.isEmpty_iff.mp ‹_›, rfl, rfl⟩
      | some next => exact .inr ⟨next, rfl, by simpa only [goes] using ran⟩
  · rintro ⟨first, rest, middle, reply, rfl, answered, ⟨ends, rfl, rfl, rfl⟩ | ⟨next, goes, ran⟩⟩
    · simp [alone, answered, ends]
    · simp [alone, answered, goes, ran]

/-- A job's call is served or fails, and the job goes on. -/
def await (number : ℕ) (served : Bool) : List (Action Event) :=
  [if served then .serve number else .fail number, .resume number]

/-- The awaits of one job in a row. -/
def awaits (number : ℕ) (served : List Bool) : List (Action Event) :=
  served.flatMap (await number)

variable {number site : ℕ} {task : Task}

theorem execute_await (held : w.pool number = some ⟨site, task, .issued⟩) (served : Bool) :
    Runs.execute (step M) w (await number served) =
      (answer M w.store (M.call task) served).map fun (store, reply) => {
        store
        sites := update w.sites site (M.resume task reply (w.sites site)).1
        pool := update w.pool number
          ((M.resume task reply (w.sites site)).2.map fun next => ⟨site, next, .issued⟩) } := by
  cases served with
  | false => simp [await, answer, Runs.execute, step, held]
  | true =>
    cases answered : M.serve w.store (M.call task) with
    | none => simp [await, answer, Runs.execute, step, held, answered]
    | some reached => simp [await, answer, Runs.execute, step, held, answered]

theorem awaits_cons (number : ℕ) (served : Bool) (rest : List Bool) :
    (awaits number (served :: rest) : List (Action Event)) =
      await number served ++ awaits number rest := rfl

/-- A job that has ended has no further await. -/
theorem execute_ended (ended : w.pool number = none) (served : Bool) (rest : List Bool) :
    Runs.execute (step M) w (awaits number (served :: rest)) = none := by
  cases served <;> simp [awaits, await, Runs.execute, step, ended]

/-- The awaits of a job in a row, up to its end, do what its task does alone. -/
theorem execute_awaits {served : List Bool} (held : w.pool number = some ⟨site, task, .issued⟩) :
    (Runs.execute (step M) w (awaits number served) = some w' ∧ w'.pool number = none) ↔
    ∃ store memory, alone M served w.store (w.sites site) task = some (store, memory) ∧
      w' = { store, sites := update w.sites site memory, pool := update w.pool number none } := by
  induction served generalizing w task with
  | nil =>
    constructor
    · rintro ⟨⟨⟩, ended⟩
      rw [held] at ended
      cases ended
    · rintro ⟨_, _, ⟨⟩, _⟩
  | cons first rest ih =>
    rw [awaits_cons, Runs.execute_append, execute_await held]
    cases answered : answer M w.store (M.call task) first with
    | none => simp [alone, answered]
    | some reached =>
      obtain ⟨store, reply⟩ := reached
      cases resumed : M.resume task reply (w.sites site) with
      | mk memory next =>
        simp only [alone, answered, resumed, Option.map_some, Option.bind_some]
        cases next with
        | some next =>
          have continues := @ih ⟨store, update w.sites site memory,
            update w.pool number (some ⟨site, next, .issued⟩)⟩ next (by simp)
          simpa using continues
        | none =>
          cases rest with
          | nil =>
            constructor
            · rintro ⟨⟨⟩, _⟩
              exact ⟨store, memory, rfl, rfl⟩
            · rintro ⟨_, _, ⟨⟩, rfl⟩
              exact ⟨rfl, by simp⟩
          | cons second rest =>
            have ended := @execute_ended _ _ _ _ _ _ M ⟨store, update w.sites site memory,
              update w.pool number none⟩ number (by simp) second rest
            simp [ended]

/-- An event and its task, uninterrupted and with every call answered. -/
def uninterrupted (site : ℕ) (event : Event) (number count : ℕ) : List (Action Event) :=
  .react site event number :: awaits number (List.replicate count true)

/-- What an uninterrupted task does is what it does alone. -/
theorem execute_uninterrupted {event : Event} {count : ℕ} (idle : w.pool number = none)
    (ran : Runs.execute (step M) w (uninterrupted site event number count) = some w')
    (ended : w'.pool number = none) :
    (∃ memory, M.react event (w.sites site) = some (memory, none) ∧
      w' = { w with sites := update w.sites site memory }) ∨
    ∃ memory task store last, M.react event (w.sites site) = some (memory, some task) ∧
      alone M (List.replicate count true) w.store memory task = some (store, last) ∧
      w' = { w with store, sites := update w.sites site last } := by
  obtain ⟨begun, moved, ran⟩ := Option.bind_eq_some_iff.mp ran
  cases move_of_step moved with
  | @react _ _ _ memory reacted =>
    refine .inl ⟨memory, reacted, ?_⟩
    cases count with
    | zero =>
      cases ran
      rfl
    | succ count =>
      have stuck := @execute_ended _ _ _ _ _ _ M { w with sites := update w.sites site memory }
        number idle true (List.replicate count true)
      rw [List.replicate_succ, stuck] at ran
      cases ran
  | @spawn _ _ _ memory task reacted _ =>
    obtain ⟨store, last, did, rfl⟩ := (execute_awaits (update_self _ _ _)).mp ⟨ran, ended⟩
    refine .inr ⟨memory, task, store, last, reacted, by simpa using did, ?_⟩
    simp only [update_idem, World.mk.injEq, true_and]
    rw [← idle, update_eq_self]

/-- What holds after a segment: `stage` of the next await, or `done` at the end. -/
def After (stage : Store → Local → Task → Prop) (done : Store → Local → Prop) (store : Store) :
    Local × Option Task → Prop
  | (memory, some next) => stage store memory next
  | (memory, none) => done store memory

/-- A task may be one of a larger program. -/
theorem After.map {Inner : Type} {stage : Store → Local → Task → Prop}
    {done : Store → Local → Prop} {store : Store} {result : Local × Option Inner}
    (wrap : Inner → Task)
    (after : After (fun store memory task => stage store memory (wrap task)) done store result) :
    After stage done store (result.1, result.2.map wrap) := by
  obtain ⟨memory, next⟩ := result
  cases next <;> exact after

theorem After.imp {stage stage' : Store → Local → Task → Prop} {done done' : Store → Local → Prop}
    {store : Store} {result : Local × Option Task} (after : After stage done store result)
    (next : ∀ store memory task, stage store memory task → stage' store memory task)
    (last : ∀ store memory, done store memory → done' store memory) :
    After stage' done' store result := by
  obtain ⟨memory, task⟩ := result
  cases task with
  | some task => exact next store memory task after
  | none => exact last store memory after

/-- A condition on a task at each of its awaits that every segment preserves, or ends in the
postcondition, holds up to the end. -/
theorem alone_rule {stage : Store → Local → Task → Prop} {done : Store → Local → Prop}
    (segment : ∀ store memory task store' reply, stage store memory task →
      M.serve store (M.call task) = some (store', reply) →
      After stage done store' (M.resume task reply memory))
    {count : ℕ} {store last : Store} {memory memory' : Local} (begins : stage store memory task)
    (ran : alone M (List.replicate count true) store memory task = some (last, memory')) :
    done last memory' := by
  induction count generalizing store memory task with
  | zero => cases ran
  | succ count ih =>
    obtain ⟨⟨store', reply⟩, served, ran⟩ := Option.bind_eq_some_iff.mp ran
    have preserved := segment store memory task store' reply begins served
    cases resumed : M.resume task reply memory with
    | mk middle next =>
      rw [resumed] at preserved
      simp only [resumed] at ran
      cases next with
      | some next => exact ih preserved ran
      | none =>
        obtain ⟨_, same⟩ := Option.ite_none_right_eq_some.mp ran
        cases same
        exact preserved

/-- A condition on a task at each of its awaits, under which its calls are served and every segment
preserves it and lowers the variant, or ends in the postcondition: the task comes to its end, and the
postcondition holds. -/
theorem alone_total {stage : Store → Local → Task → Prop} {done : Store → Local → Prop}
    (variant : Task → ℕ)
    (segment : ∀ store memory task, stage store memory task → ∃ store' reply,
      M.serve store (M.call task) = some (store', reply) ∧
      After (fun store memory next => stage store memory next ∧ variant next < variant task) done
        store' (M.resume task reply memory))
    {store : Store} {memory : Local} (begins : stage store memory task) :
    ∃ count last memory',
      alone M (List.replicate count true) store memory task = some (last, memory') ∧
      done last memory' := by
  induction left : variant task using Nat.strongRecOn generalizing store memory task with
  | ind left ih =>
    obtain ⟨store', reply, served, preserved⟩ := segment store memory task begins
    cases resumed : M.resume task reply memory with
    | mk middle next =>
      rw [resumed] at preserved
      cases next with
      | none => exact ⟨1, store', middle, by simp [alone, answer, served, resumed], preserved⟩
      | some next =>
        obtain ⟨held, lower⟩ := preserved
        rw [left] at lower
        obtain ⟨count, last, memory', ran, reached⟩ := ih _ lower held rfl
        have answered : answer M store (M.call task) true = some (store', reply) := served
        refine ⟨count + 1, last, memory', ?_, reached⟩
        rw [List.replicate_succ, alone_goes answered resumed]
        exact ran

theorem step_spawn {event : Event} {memory : Local} (idle : w.pool number = none)
    (reacted : M.react event (w.sites site) = some (memory, some task)) :
    step M w (.react site event number) = some { w with
      sites := update w.sites site memory
      pool := update w.pool number (some ⟨site, task, .issued⟩) } := by
  simp [step, reacted, idle]

/-- What a task does alone can be done without interruption. -/
theorem execute_alone {event : Event} {count : ℕ} {memory last : Local} {store : Store}
    (idle : w.pool number = none) (reacted : M.react event (w.sites site) = some (memory, some task))
    (ran : alone M (List.replicate count true) w.store memory task = some (store, last)) :
    Runs.execute (step M) w (uninterrupted site event number count) =
      some { w with store, sites := update w.sites site last } := by
  let begun : World Store Local Task Reply := { w with
    sites := update w.sites site memory
    pool := update w.pool number (some ⟨site, task, .issued⟩) }
  have begins : step M w (.react site event number) = some begun := step_spawn idle reacted
  have held : begun.pool number = some ⟨site, task, .issued⟩ := update_self _ _ _
  obtain ⟨did, _⟩ := (execute_awaits held).mpr ⟨store, last, by simpa [begun] using ran, rfl⟩
  rw [uninterrupted, Runs.execute, begins, Option.bind_some, did]
  simp [begun, ← idle]

/-! ### The calls of a task alone -/

/-- A task alone with every call answered, up to its end: the calls it makes, one at each await. -/
inductive Makes (M : Machine Store Local Call Reply Task Event) :
    Store → Local → Task → List Call → Store → Local → Prop where
  | ends {store after : Store} {memory last : Local} {task : Task} {reply : Reply} :
      M.serve store (M.call task) = some (after, reply) →
      M.resume task reply memory = (last, none) →
      Makes M store memory task [M.call task] after last
  | goes {store middle after : Store} {memory memory' last : Local} {task next : Task}
      {reply : Reply} {calls : List Call} :
      M.serve store (M.call task) = some (middle, reply) →
      M.resume task reply memory = (memory', some next) →
      Makes M middle memory' next calls after last →
      Makes M store memory task (M.call task :: calls) after last

theorem Makes.alone {store after : Store} {memory last : Local} {calls : List Call}
    (makes : Makes M store memory task calls after last) :
    alone M (List.replicate calls.length true) store memory task = some (after, last) := by
  induction makes with
  | ends served ended => simp [Async.alone, answer, served, ended]
  | @goes store middle _ _ _ _ task _ reply _ served resumed _ ih =>
    have answered : answer M store (M.call task) true = some (middle, reply) := served
    rw [List.length_cons, List.replicate_succ, alone_goes answered resumed]
    exact ih

/-- After so many awaits a job is suspended at the call that comes next. -/
theorem Makes.suspended {store after : Store} {memory last : Local} {calls : List Call}
    (makes : Makes M store memory task calls after last) {w : World Store Local Task Reply}
    (there : w.store = store) (here : w.sites site = memory)
    (held : w.pool number = some ⟨site, task, .issued⟩) {k : ℕ} {call : Call}
    (listed : calls[k]? = some call) :
    ∃ w' task', Runs.execute (step M) w (awaits number (List.replicate k true)) = some w' ∧
      w'.pool number = some ⟨site, task', .issued⟩ ∧ M.call task' = call := by
  induction makes generalizing w k with
  | ends _ _ =>
    cases k with
    | zero => exact ⟨w, _, rfl, held, Option.some.inj listed⟩
    | succ k => cases listed
  | goes served resumed _ ih =>
    cases k with
    | zero => exact ⟨w, _, rfl, held, Option.some.inj listed⟩
    | succ k =>
      obtain ⟨w', task', ran, suspended, calls⟩ := ih (w := { w with
        store := _
        sites := update w.sites site _
        pool := update w.pool number (some ⟨site, _, .issued⟩) })
        rfl (update_self _ _ _) (update_self _ _ _) listed
      refine ⟨w', task', ?_, suspended, calls⟩
      rw [List.replicate_succ, awaits_cons, Runs.execute_append, execute_await held, there, here]
      simp only [answer, if_true, served, resumed, Option.map_some, Option.bind_some]
      exact ran

/-- An event begins a task that makes these calls, as long as nothing comes between. -/
theorem suspended_of_makes {event : Event} {memory last : Local} {after : Store} {calls : List Call}
    (idle : w.pool number = none) (reacted : M.react event (w.sites site) = some (memory, some task))
    (makes : Makes M w.store memory task calls after last) {k : ℕ} {call : Call}
    (listed : calls[k]? = some call) :
    ∃ w' task', Runs.execute (step M) w (uninterrupted site event number k) = some w' ∧
      w'.pool number = some ⟨site, task', .issued⟩ ∧ M.call task' = call := by
  let begun : World Store Local Task Reply := { w with
    sites := update w.sites site memory
    pool := update w.pool number (some ⟨site, task, .issued⟩) }
  have begins : step M w (.react site event number) = some begun := step_spawn idle reacted
  obtain ⟨w', task', ran, suspended, called⟩ := makes.suspended (w := begun) rfl
    (update_self _ _ _) (update_self _ _ _) listed
  refine ⟨w', task', ?_, suspended, called⟩
  rw [uninterrupted, Runs.execute, begins, Option.bind_some]
  exact ran

end Async

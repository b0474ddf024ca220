import DailyTrivia.Async

/-!
A part of a program: some of its sites and what they share in the store.

If the calls of the part are answered from its share of the store, and the calls of the other
sites leave that share alone, then the part does not depend on the others. What the part does
in a run of the whole program is a run of the part alone, and it ends with the same memories,
the same jobs and the same share.
-/
namespace Async

open Function (update update_self update_of_ne)
open Runs

variable {Store Local Call Reply Task Event : Type}

/-- A share of the store. -/
structure Share (M : Machine Store Local Call Reply Task Event) where
  /-- The second store has the share of the first. -/
  same : Store → Store → Prop
  /-- The call is answered from the share. -/
  own : Call → Prop
  /-- The call leaves the share alone. -/
  spares : Call → Prop
  serve_own : ∀ {call store after store' reply}, own call → same store store' →
    M.serve store call = some (after, reply) →
    ∃ after', M.serve store' call = some (after', reply) ∧ same after after'
  serve_spares : ∀ {call store after store' reply}, spares call → same store store' →
    M.serve store call = some (after, reply) → same after store'

/-- The site a step is taken at: where the user acts, or where the job is that is moved. -/
def Action.site (w : World Store Local Task Reply) : Action Event → Option ℕ
  | .react site _ _ | .restart site => some site
  | .serve job | .fail job | .resume job => (w.pool job).map Job.site

variable {M : Machine Store Local Call Reply Task Event}

/-- The step is taken at one of these sites. -/
def ofPart (mine : ℕ → Bool) (w : World Store Local Task Reply) (action : Action Event) :
    Option (Action Event) :=
  if (action.site w).any mine then some action else none

/-- The calls of the part keep to its share, and the others leave it alone. -/
def KeepsApart (share : Share M) (mine : ℕ → Bool) (w : World Store Local Task Reply)
    (action : Action Event) : Prop :=
  ∀ number site task, action = .serve number → w.pool number = some ⟨site, task, .issued⟩ →
    if mine site then share.own (M.call task) else share.spares (M.call task)

/-- The second world has the part of the first, and no other jobs. -/
structure SamePart (share : Share M) (mine : ℕ → Bool) (w v : World Store Local Task Reply) :
    Prop where
  sites : ∀ site, mine site = true → v.sites site = w.sites site
  pool : ∀ number, v.pool number = (w.pool number).filter fun job => mine job.site
  store : share.same w.store v.store

variable {share : Share M} {mine : ℕ → Bool} {w w' v : World Store Local Task Reply}
variable {action : Action Event} {number site : ℕ} {task : Task}

theorem filter_update {pool : ℕ → Option (Job Task Reply)} {job : Option (Job Task Reply)}
    (number : ℕ) :
    (fun other => (update pool number job other).filter fun job => mine job.site) =
      update (fun other => (pool other).filter fun job => mine job.site) number
        (job.filter fun job => mine job.site) := by
  funext other
  by_cases same : other = number
  · subst same
    simp
  · simp [same]

theorem filter_mine {phase : Phase Reply} (mineHere : mine site = true) :
    (some ⟨site, task, phase⟩ : Option (Job Task Reply)).filter (fun job => mine job.site) =
      some ⟨site, task, phase⟩ := by
  simp [mineHere]

theorem samePart_sites {memory : Local} (mineHere : mine site = true)
    (same : ∀ site, mine site = true → v.sites site = w.sites site) :
    ∀ other, mine other = true →
      update v.sites site memory other = update w.sites site memory other := by
  intro other mineThere
  by_cases here : other = site
  · subst here
    simp
  · simp [here, same other mineThere]

theorem SamePart.held (part : SamePart share mine w v)
    {job : Job Task Reply} (held : w.pool number = some job) (mineHere : mine job.site = true) :
    v.pool number = some job := by
  simp [part.pool, held, mineHere]

/-- A step of the part is a step of the part alone. -/
theorem SamePart.moves (part : SamePart share mine w v) (apart : KeepsApart share mine w action)
    (stepped : step M w action = some w') {chosen : Action Event}
    (chose : ofPart mine w action = some chosen) :
    ∃ v', step M v chosen = some v' ∧ SamePart share mine w' v' := by
  obtain ⟨ours, same⟩ := Option.ite_none_right_eq_some.mp chose
  obtain rfl := Option.some.inj same
  have pool := funext part.pool
  cases move_of_step stepped with
  | @react site job event memory reacted =>
    have mineHere : mine site = true := by simpa [Action.site] using ours
    refine ⟨{ v with sites := update v.sites site memory }, ?_, ?_⟩
    · simp [step, part.sites site mineHere, reacted]
    · exact ⟨samePart_sites mineHere part.sites, part.pool, part.store⟩
  | @spawn site job event memory task reacted vacant =>
    have mineHere : mine site = true := by simpa [Action.site] using ours
    have vacant' : v.pool job = none := by simp [part.pool, vacant]
    refine ⟨{ v with
      sites := update v.sites site memory
      pool := update v.pool job (some ⟨site, task, .issued⟩) }, ?_, ?_⟩
    · simp [step, part.sites site mineHere, reacted, vacant']
    · refine ⟨samePart_sites mineHere part.sites, congrFun ?_, part.store⟩
      rw [filter_update, pool, filter_mine mineHere]
  | @serve site job task store reply held served =>
    have mineHere : mine site = true := by simpa [Action.site, held] using ours
    have own := apart job site task rfl held
    rw [if_pos mineHere] at own
    obtain ⟨store', served', same⟩ := share.serve_own own part.store served
    refine ⟨{ v with
      store := store'
      pool := update v.pool job (some ⟨site, task, .answered reply⟩) }, ?_, ?_⟩
    · simp [step, part.held held mineHere, served']
    · refine ⟨part.sites, congrFun ?_, same⟩
      rw [filter_update, pool, filter_mine mineHere]
  | @fail site job task held =>
    have mineHere : mine site = true := by simpa [Action.site, held] using ours
    refine ⟨{ v with pool := update v.pool job (some ⟨site, task, .answered M.refused⟩) }, ?_, ?_⟩
    · simp [step, part.held held mineHere]
    · refine ⟨part.sites, congrFun ?_, part.store⟩
      rw [filter_update, pool, filter_mine mineHere]
  | @resume site job task reply memory next held resumed =>
    have mineHere : mine site = true := by simpa [Action.site, held] using ours
    refine ⟨{ v with
      sites := update v.sites site memory
      pool := update v.pool job (next.map fun next => ⟨site, next, .issued⟩) }, ?_, ?_⟩
    · simp [step, part.held held mineHere, part.sites site mineHere, resumed]
    · refine ⟨samePart_sites mineHere part.sites, congrFun ?_, part.store⟩
      rw [filter_update, pool]
      cases next with
      | none => rfl
      | some next => rw [Option.map_some, filter_mine mineHere]
  | @restart site =>
    have mineHere : mine site = true := by simpa [Action.site] using ours
    refine ⟨{ v with
      sites := update v.sites site (M.restart (v.sites site))
      pool := fun job => (v.pool job).filter fun held => held.site != site }, rfl, ?_⟩
    refine ⟨?_, fun number => ?_, part.store⟩
    · rw [part.sites site mineHere]
      exact samePart_sites mineHere part.sites
    · simp only [part.pool, Option.filter_filter]
      refine congrArg (Option.filter · _) (funext fun job => ?_)
      exact Bool.and_comm _ _

/-- A step elsewhere leaves the part as it is. -/
theorem SamePart.stays (part : SamePart share mine w v) (apart : KeepsApart share mine w action)
    (stepped : step M w action = some w') (passed : ofPart mine w action = none) :
    SamePart share mine w' v := by
  have others : ¬ (action.site w).any mine = true := by
    intro ours
    simp [ofPart, ours] at passed
  have kept : ∀ {site memory}, mine site = false → ∀ other, mine other = true →
      v.sites other = update w.sites site memory other := by
    intro site memory theirs other mineThere
    have apart : other ≠ site := by
      rintro rfl
      rw [mineThere] at theirs
      cases theirs
    rw [update_of_ne apart, part.sites other mineThere]
  have gone : ∀ {number : ℕ} {job : Option (Job Task Reply)},
      (w.pool number).filter (fun job => mine job.site) = none →
      job.filter (fun job => mine job.site) = none → ∀ other,
      v.pool other = (update w.pool number job other).filter fun job => mine job.site := by
    intro number job before after other
    by_cases same : other = number
    · subst same
      rw [part.pool, before, update_self, after]
    · rw [part.pool, update_of_ne same]
  cases move_of_step stepped with
  | @react site job event memory reacted =>
    have theirs : mine site = false := by simpa [Action.site] using others
    exact ⟨kept theirs, part.pool, part.store⟩
  | @spawn site job event memory task reacted vacant =>
    have theirs : mine site = false := by simpa [Action.site] using others
    exact ⟨kept theirs, gone (by simp [vacant]) (by simp [theirs]), part.store⟩
  | @serve site job task store reply held served =>
    have theirs : mine site = false := by simpa [Action.site, held] using others
    have spares := apart job site task rfl held
    rw [theirs, if_neg (by simp)] at spares
    exact ⟨part.sites, gone (by simp [held, theirs]) (by simp [theirs]),
      share.serve_spares spares part.store served⟩
  | @fail site job task held =>
    have theirs : mine site = false := by simpa [Action.site, held] using others
    exact ⟨part.sites, gone (by simp [held, theirs]) (by simp [theirs]), part.store⟩
  | @resume site job task reply memory next held resumed =>
    have theirs : mine site = false := by simpa [Action.site, held] using others
    refine ⟨kept theirs, gone (by simp [held, theirs]) ?_, part.store⟩
    cases next <;> simp [theirs]
  | @restart site =>
    have theirs : mine site = false := by simpa [Action.site] using others
    have others : ∀ job : Job Task Reply, mine job.site = (job.site != site && mine job.site) := by
      intro job
      by_cases here : job.site = site
      · simp [here, theirs]
      · simp [here]
    refine ⟨kept theirs, fun number => ?_, part.store⟩
    simp only [part.pool, Option.filter_filter]
    exact congrArg (Option.filter · _) (funext others)

/-- The steps of the part, taken out of a run, make a run of the part alone. -/
theorem execute_part {allowed : World Store Local Task Reply → Action Event → Prop}
    {start after : World Store Local Task Reply} {actions : List (Action Event)}
    (run : Run (step M) allowed start actions after)
    (apart : ∀ w action, allowed w action → KeepsApart share mine w action)
    (begins : SamePart share mine start v) :
    ∃ v', execute (step M) v (picked (step M) (ofPart mine) start actions) = some v' ∧
      SamePart share mine after v' := by
  refine run.simulate ?_ ?_ begins
  · intro w v action w' chosen part permitted stepped chose
    exact part.moves (apart w action permitted) stepped chose
  · intro w v action w' part permitted stepped passed
    exact part.stays (apart w action permitted) stepped passed

end Async

import DailyTrivia.Async
import Mathlib.Algebra.BigOperators.Group.Finset.Basic
import Mathlib.Algebra.Order.BigOperators.Group.Finset

/-!
Tasks that come to an end. A rank that goes down from each await of a task to the next bounds the
awaits of the task. Every step of a task then uses up some of the steps that the task may still
take, and only an event brings new ones, so a run has no more steps of tasks than its events allow.
-/
namespace Async

open Function (update update_self update_of_ne)
open Runs

variable {Store Local Call Reply Task Event : Type}

/-- The awaits that a task has after this one, fewer than `bound`. -/
structure Ranked (M : Machine Store Local Call Reply Task Event) (bound : ℕ) where
  rank : Task → ℕ
  begins : ∀ {event memory memory' task}, M.react event memory = some (memory', some task) →
    rank task < bound
  goes : ∀ {task reply memory memory' next}, M.resume task reply memory = (memory', some next) →
    rank next < rank task

variable {M : Machine Store Local Call Reply Task Event} {bound : ℕ}
variable {w w' : World Store Local Task Reply} {action : Action Event} {actions : List (Action Event)}

/-- The steps that a job may still take: it is answered and goes on, at every await. -/
def Ranked.left (ranked : Ranked M bound) : Option (Job Task Reply) → ℕ
  | none => 0
  | some ⟨_, task, .issued⟩ => 2 * ranked.rank task + 2
  | some ⟨_, task, .answered _⟩ => 2 * ranked.rank task + 1

/-- The steps of tasks in a run. -/
def moves (actions : List (Action Event)) : ℕ := actions.countP fun action => action.moved.isSome

/-- The events in a run. -/
def events (actions : List (Action Event)) : ℕ := actions.countP fun action => action.takes.isSome

/-- These are all jobs, and they may still take as many steps. -/
structure Backlog (ranked : Ranked M bound) (pool : ℕ → Option (Job Task Reply)) (jobs : Finset ℕ)
    (steps : ℕ) : Prop where
  all : ∀ number ∉ jobs, pool number = none
  left : ∑ number ∈ jobs, ranked.left (pool number) = steps

variable {ranked : Ranked M bound} {pool : ℕ → Option (Job Task Reply)} {jobs : Finset ℕ} {steps : ℕ}

/-- Moving one job changes what is left by what the job has left. -/
theorem Backlog.moved (backlog : Backlog ranked pool jobs steps) (number : ℕ)
    (job : Option (Job Task Reply)) :
    ∃ jobs' steps', Backlog ranked (update pool number job) jobs' steps' ∧
      steps' + ranked.left (pool number) = steps + ranked.left job := by
  refine ⟨insert number jobs, _, ⟨fun other absent => ?_, rfl⟩, ?_⟩
  · rw [Finset.mem_insert, not_or] at absent
    rw [update_of_ne absent.1]
    exact backlog.all other absent.2
  · have here := Finset.mem_insert_self number jobs
    have elsewhere : ∑ other ∈ (insert number jobs).erase number,
          ranked.left (update pool number job other) =
        ∑ other ∈ (insert number jobs).erase number, ranked.left (pool other) :=
      Finset.sum_congr rfl fun other listed => by rw [update_of_ne (Finset.ne_of_mem_erase listed)]
    have before : ∑ other ∈ insert number jobs, ranked.left (pool other) = steps := by
      rw [← backlog.left]
      refine Finset.sum_insert_of_eq_zero_if_notMem fun absent => ?_
      rw [backlog.all number absent]
      rfl
    have after := Finset.add_sum_erase _ (fun other => ranked.left (update pool number job other)) here
    have total := Finset.add_sum_erase _ (fun other => ranked.left (pool other)) here
    simp only [update_self] at after
    omega

/-- A step uses up one of the steps that are left, unless it is an event. -/
theorem backlog_step (moved : Move M w action w') (backlog : Backlog ranked w.pool jobs steps) :
    ∃ jobs' steps', Backlog ranked w'.pool jobs' steps' ∧
      moves [action] + steps' ≤ steps + 2 * bound * events [action] := by
  cases moved with
  | react reacted => exact ⟨jobs, steps, backlog, by simp [moves, Action.moved]⟩
  | @spawn site job event memory task reacted vacant =>
    obtain ⟨jobs', steps', backlog', sum⟩ := backlog.moved job (some ⟨site, task, .issued⟩)
    refine ⟨jobs', steps', backlog', ?_⟩
    have few := ranked.begins reacted
    simp only [vacant, Ranked.left] at sum
    simp [moves, events, Action.moved, Action.takes]
    omega
  | @serve site job task store reply held served =>
    obtain ⟨jobs', steps', backlog', sum⟩ := backlog.moved job (some ⟨site, task, .answered reply⟩)
    refine ⟨jobs', steps', backlog', ?_⟩
    simp only [held, Ranked.left] at sum
    simp [moves, events, Action.moved, Action.takes]
    omega
  | @fail site job task held =>
    obtain ⟨jobs', steps', backlog', sum⟩ := backlog.moved job
      (some ⟨site, task, .answered M.refused⟩)
    refine ⟨jobs', steps', backlog', ?_⟩
    simp only [held, Ranked.left] at sum
    simp [moves, events, Action.moved, Action.takes]
    omega
  | @resume site job task reply memory next held resumed =>
    obtain ⟨jobs', steps', backlog', sum⟩ := backlog.moved job
      (next.map fun next => ⟨site, next, .issued⟩)
    refine ⟨jobs', steps', backlog', ?_⟩
    rw [held] at sum
    have before : ranked.left (some ⟨site, task, .answered reply⟩) = 2 * ranked.rank task + 1 := rfl
    have few : ranked.left (next.map fun next => (⟨site, next, .issued⟩ : Job Task Reply)) ≤
        2 * ranked.rank task := by
      cases next with
      | none => simp [Ranked.left]
      | some next =>
        have goes := ranked.goes resumed
        simp only [Option.map_some, Ranked.left]
        omega
    simp [moves, events, Action.moved, Action.takes]
    omega
  | @restart site =>
    refine ⟨jobs, _, ⟨fun number absent => ?_, rfl⟩, ?_⟩
    · simp [backlog.all number absent]
    · have fewer : ∀ number ∈ jobs, ranked.left ((w.pool number).filter fun job => job.site != site) ≤
          ranked.left (w.pool number) := by
        intro number _
        cases w.pool number with
        | none => exact Nat.le_refl _
        | some job => cases here : job.site != site <;> simp [Option.filter, here, Ranked.left]
      have sum := Finset.sum_le_sum fewer
      rw [backlog.left] at sum
      simpa [moves, events, Action.moved, Action.takes] using sum

/-- In a run from no jobs, tasks take no more steps than the events allow. -/
theorem moves_le_of_run {allowed : World Store Local Task Reply → Action Event → Prop}
    {start : World Store Local Task Reply} (ranked : Ranked M bound)
    (idle : ∀ number, start.pool number = none) (run : Run (step M) allowed start actions w) :
    moves actions ≤ 2 * bound * events actions := by
  suffices ∃ jobs steps, Backlog ranked w.pool jobs steps ∧
      moves actions + steps ≤ 2 * bound * events actions by
    obtain ⟨jobs, steps, _, few⟩ := this
    omega
  induction run with
  | nil => exact ⟨∅, 0, ⟨fun number _ => idle number, rfl⟩, by simp [moves]⟩
  | snoc _ _ moved ih =>
    obtain ⟨jobs, steps, backlog, few⟩ := ih
    obtain ⟨jobs', steps', backlog', used⟩ := backlog_step (move_of_step moved) backlog
    refine ⟨jobs', steps', backlog', ?_⟩
    simp only [moves, events, List.countP_append] at *
    rw [Nat.mul_add]
    omega

/-- A job can always move. -/
theorem can_move {number : ℕ} {job : Job Task Reply} (held : w.pool number = some job) :
    ∃ action w', action.moved = some number ∧ step M w action = some w' := by
  obtain ⟨site, task, phase⟩ := job
  cases phase with
  | issued =>
    refine ⟨.fail number, ?_⟩
    simp [Action.moved, step, held]
  | answered reply =>
    refine ⟨.resume number, ?_⟩
    simp [Action.moved, step, held]

/-- Only where every job has come to its end is no step of a job possible. -/
theorem ended_of_stuck
    (stuck : ∀ action : Action Event, action.moved.isSome = true → step M w action = none)
    (number : ℕ) : w.pool number = none := by
  refine Option.eq_none_iff_forall_ne_some.mpr fun job held => ?_
  obtain ⟨action, w', moves, moved⟩ : ∃ action w', action.moved = some number ∧
    step M w action = some w' := can_move held
  rw [stuck action (by simp [moves])] at moved
  cases moved

/-! ## A task alone -/

/-- A ranked task whose calls are served comes to its end. -/
theorem Ranked.alone_total {stage : Store → Local → Task → Prop} {done : Store → Local → Prop}
    (ranked : Ranked M bound)
    (segment : ∀ store memory task, stage store memory task → ∃ store' reply,
      M.serve store (M.call task) = some (store', reply) ∧
      After stage done store' (M.resume task reply memory))
    {store : Store} {memory : Local} {task : Task} (begins : stage store memory task) :
    ∃ count last memory',
      alone M (List.replicate count true) store memory task = some (last, memory') ∧
      done last memory' := by
  refine Async.alone_total ranked.rank ?_ begins
  intro store memory task held
  obtain ⟨store', reply, served, preserved⟩ := segment store memory task held
  refine ⟨store', reply, served, ?_⟩
  cases resumed : M.resume task reply memory with
  | mk middle next =>
    rw [resumed] at preserved
    cases next with
    | none => exact preserved
    | some next => exact ⟨preserved, ranked.goes resumed⟩

end Async

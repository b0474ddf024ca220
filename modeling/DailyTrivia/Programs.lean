import DailyTrivia.Async

/-!
Programs over one store. A program moves by steps that read and change the store together with
what is its own; `beside` lets two of them move in turns, in any order. What one of them does in a
run of both is a run of it alone, if the other leaves alone what the first can read: the relation
`same` says which stores the first cannot tell apart.

The tasks of a `Machine` are such a program.
-/
namespace Programs

open Async Runs

variable {Store Own Own' A B : Type}

abbrev Program (Store Own A : Type) := Store × Own → A → Option (Store × Own)

/-- Two programs that take turns. -/
def beside (P : Program Store Own A) (Q : Program Store Own' B) :
    Program Store (Own × Own') (A ⊕ B)
  | (store, own, own'), .inl action =>
    (P (store, own) action).map fun (after, next) => (after, next, own')
  | (store, own, own'), .inr action =>
    (Q (store, own') action).map fun (after, next) => (after, own, next)

/-- The program does the same on stores that it cannot tell apart. -/
def Respects (same : Store → Store → Prop) (P : Program Store Own A) : Prop :=
  ∀ store store' own action after next, same store store' →
    P (store, own) action = some (after, next) →
    ∃ after', P (store', own) action = some (after', next) ∧ same after after'

/-- The program changes nothing that tells stores apart. -/
def Spares (same : Store → Store → Prop) (Q : Program Store Own B) : Prop :=
  ∀ store store' own action after next, same store store' →
    Q (store, own) action = some (after, next) → same after store'

variable {P : Program Store Own A} {Q : Program Store Own' B} {same : Store → Store → Prop}
variable {store after store' : Store} {own next : Own} {own' next' : Own'}

/-! ## One of two programs -/

theorem beside_inl {action : A} :
    beside P Q (store, own, own') (.inl action) = some (after, next, next') ↔
    P (store, own) action = some (after, next) ∧ next' = own' := by
  simp only [beside, Option.map_eq_some_iff, Prod.mk.injEq, Prod.exists]
  constructor
  · rintro ⟨_, _, moved, rfl, rfl, rfl⟩
    exact ⟨moved, rfl⟩
  · rintro ⟨moved, rfl⟩
    exact ⟨after, next, moved, rfl, rfl, rfl⟩

theorem beside_inr {action : B} :
    beside P Q (store, own, own') (.inr action) = some (after, next, next') ↔
    Q (store, own') action = some (after, next') ∧ next = own := by
  simp only [beside, Option.map_eq_some_iff, Prod.mk.injEq, Prod.exists]
  constructor
  · rintro ⟨_, _, moved, rfl, rfl, rfl⟩
    exact ⟨moved, rfl⟩
  · rintro ⟨moved, rfl⟩
    exact ⟨after, next', moved, rfl, rfl, rfl⟩

/-- A program alone is where it is beside another one. -/
def Alone (same : Store → Store → Prop) (both : Store × Own × Own') (one : Store × Own) : Prop :=
  same both.1 one.1 ∧ one.2 = both.2.1

/-- What the first program does in a run of both, it does alone. -/
theorem execute_left {allowed : Store × Own × Own' → A ⊕ B → Prop} {actions : List (A ⊕ B)}
    (respects : Respects same P) (spares : Spares same Q)
    (run : Run (beside P Q) allowed (store, own, own') actions (after, next, next'))
    (begins : same store store') :
    ∃ after', execute P (store', own) (actions.filterMap Sum.getLeft?) = some (after', next) ∧
      same after after' := by
  have moves : ∀ both one action left chosen, Alone same both one → allowed both action →
      beside P Q both action = some left → action.getLeft? = some chosen →
      ∃ one', P one chosen = some one' ∧ Alone same left one' := by
    rintro ⟨store, own, own'⟩ ⟨store', _⟩ (action | action) ⟨after, next, next'⟩ _ ⟨agree, rfl⟩ _
      moved ⟨⟩
    obtain ⟨took, _⟩ := beside_inl.mp moved
    obtain ⟨after', matched, agree⟩ := respects _ _ _ _ _ _ agree took
    exact ⟨(after', next), matched, agree, rfl⟩
  have stays : ∀ both one action left, Alone same both one → allowed both action →
      beside P Q both action = some left → action.getLeft? = none → Alone same left one := by
    rintro ⟨store, own, own'⟩ ⟨store', _⟩ (action | action) ⟨after, next, next'⟩ ⟨agree, rfl⟩ _
      moved ⟨⟩
    obtain ⟨took, kept⟩ := beside_inr.mp moved
    exact ⟨spares _ _ _ _ _ _ agree took, kept.symm⟩
  have alone : Alone same (store, own, own') (store', own) := ⟨begins, rfl⟩
  obtain ⟨⟨after', _⟩, executed, agree, rfl⟩ := run.simulate moves stays alone
  rw [picked_eq_filterMap run.execute] at executed
  exact ⟨after', executed, agree⟩

/-- Every program does the same on the same store. -/
theorem respects_eq (P : Program Store Own A) : Respects (· = ·) P := by
  rintro store _ own action after next rfl moved
  exact ⟨after, moved, rfl⟩

/-- The second program goes on while the first one rests. -/
theorem execute_inr (own : Own) (state : Store × Own') (actions : List B) :
    execute (beside P Q) (state.1, own, state.2) (actions.map .inr) =
      (execute Q state actions).map fun state => (state.1, own, state.2) := by
  induction actions generalizing state with
  | nil => rfl
  | cons action rest ih =>
    cases moved : Q state action with
    | none => simp [execute, beside, moved]
    | some next => simp [execute, beside, moved, ih]

/-! ## The tasks of a machine -/

variable {Local Call Reply Task Event : Type}

/-- What is the tasks' own: the memory of every site, and the jobs. -/
abbrev Tasks (Local Task Reply : Type) := (ℕ → Local) × (ℕ → Option (Job Task Reply))

/-- A machine is a program whose steps are those of its tasks. -/
def ofMachine (M : Machine Store Local Call Reply Task Event) :
    Program Store (Tasks Local Task Reply) (Action Event) :=
  fun state action => (step M ⟨state.1, state.2.1, state.2.2⟩ action).map fun w =>
    (w.store, w.sites, w.pool)

variable {M : Machine Store Local Call Reply Task Event}

theorem execute_ofMachine (w : World Store Local Task Reply) (actions : List (Action Event)) :
    execute (ofMachine M) (w.store, w.sites, w.pool) actions =
      (execute (step M) w actions).map fun w => (w.store, w.sites, w.pool) := by
  induction actions generalizing w with
  | nil => rfl
  | cons action rest ih =>
    cases moved : step M w action with
    | none => simp [execute, ofMachine, moved]
    | some next => simp [execute, ofMachine, moved, ih]

/-- The tasks do the same when all their calls are answered alike. -/
theorem respects_ofMachine
    (answers : ∀ task store store' after reply, same store store' →
      M.serve store (M.call task) = some (after, reply) →
      ∃ after', M.serve store' (M.call task) = some (after', reply) ∧ same after after') :
    Respects same (ofMachine M) := by
  rintro store store' ⟨sites, pool⟩ action after next agree moved
  obtain ⟨w, stepped, same⟩ := Option.map_eq_some_iff.mp moved
  cases same
  cases move_of_step stepped with
  | react reacted | spawn reacted vacant =>
    refine ⟨store', ?_, agree⟩
    simp_all [ofMachine, step]
  | serve held served =>
    obtain ⟨after', served', agree'⟩ := answers _ _ _ _ _ agree served
    refine ⟨after', ?_, agree'⟩
    simp_all [ofMachine, step]
  | fail held | resume held resumed =>
    refine ⟨store', ?_, agree⟩
    simp_all [ofMachine, step]
  | restart => exact ⟨store', rfl, agree⟩

/-- The tasks change nothing when none of their calls does. -/
theorem spares_ofMachine
    (answers : ∀ task store store' after reply, same store store' →
      M.serve store (M.call task) = some (after, reply) → same after store') :
    Spares same (ofMachine M) := by
  rintro store store' ⟨sites, pool⟩ action after next agree moved
  obtain ⟨w, stepped, same⟩ := Option.map_eq_some_iff.mp moved
  cases same
  cases move_of_step stepped with
  | serve held served => exact answers _ _ _ _ _ agree served
  | _ => exact agree

/-! ## Tasks beside another program -/

/-- The store has been there in a run. -/
def PastStore (step : Program Store Own A) (start : Store × Own) (actions : List A) (store : Store) :
    Prop :=
  ∃ own, Visited step start actions (store, own)

theorem PastStore.append {step : Program Store Own A} {start : Store × Own} {actions : List A}
    (been : PastStore step start actions store) (more : List A) :
    PastStore step start (actions ++ more) store := by
  obtain ⟨own, visited⟩ := been
  exact ⟨own, visited.append more⟩

variable {host : Program Store Own A}

/-- The tasks, and the store they share with the other program. -/
def tasksOf (state : Store × Own × Tasks Local Task Reply) : World Store Local Task Reply :=
  ⟨state.1, state.2.2.1, state.2.2.2⟩

/-- What holds of the tasks and the past of the store at the start, and is kept by every step of the
other program and of the tasks, holds after every run. -/
theorem invariant_of_run
    (property : List (A ⊕ Action Event) → (Store → Prop) → World Store Local Task Reply → Prop)
    (elsewhere : ∀ actions been been' w action own store' own',
      property actions been w → (∀ store, been store → been' store) →
      host (w.store, own) action = some (store', own') →
      property (actions ++ [.inl action]) been' { w with store := store' })
    (moves : ∀ actions been been' w action w',
      property actions been w → (∀ store, been store → been' store) → been' w.store →
      Move M w action w' → property (actions ++ [.inr action]) been' w')
    {allowed : Store × Own × Tasks Local Task Reply → A ⊕ Action Event → Prop}
    {start after : Store × Own × Tasks Local Task Reply} {actions : List (A ⊕ Action Event)}
    (initial : property [] (PastStore (beside host (ofMachine M)) start []) (tasksOf start))
    (run : Run (beside host (ofMachine M)) allowed start actions after) :
    property actions (PastStore (beside host (ofMachine M)) start actions) (tasksOf after) := by
  induction run with
  | nil => exact initial
  | @snoc actions before after action run _ moved held =>
    have more : ∀ store, PastStore (beside host (ofMachine M)) start actions store →
        PastStore (beside host (ofMachine M)) start (actions ++ [action]) store :=
      fun store been => been.append [action]
    have now : PastStore (beside host (ofMachine M)) start (actions ++ [action]) before.1 :=
      more before.1 ⟨before.2, visited_last run.execute⟩
    obtain ⟨store, own, tasks⟩ := before
    obtain ⟨store', own', tasks'⟩ := after
    cases action with
    | inl action =>
      obtain ⟨took, rfl⟩ := beside_inl.mp moved
      exact elsewhere _ _ _ _ _ _ _ _ held more took
    | inr action =>
      obtain ⟨took, _⟩ := beside_inr.mp moved
      obtain ⟨w, stepped, same⟩ := Option.map_eq_some_iff.mp took
      cases same
      exact moves _ _ _ _ _ _ held more now (move_of_step stepped)

end Programs

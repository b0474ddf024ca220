import Mathlib.Data.Nat.Notation
import Mathlib.Logic.Function.Basic

/-!
Runs of a transition system whose step function is executable.

`Run step allowed start` relates an action sequence to the state it reaches when
every action is allowed in the state it leaves. A property of all runs takes
`allowed` everywhere true; a property of the runs that keep a condition takes that
condition. `Run.invariant` is the one induction every safety theorem goes through.

`Observed` adds a record of the past that the step function cannot read, for
properties that speak about what has already happened.
-/
namespace Runs

variable {S A O : Type}

/-- No step is ruled out. -/
def Any (_ : S) (_ : A) : Prop := True

inductive Run (step : S → A → Option S) (allowed : S → A → Prop) (start : S) :
    List A → S → Prop where
  | nil : Run step allowed start [] start
  | snoc {actions : List A} {before after : S} {action : A} :
      Run step allowed start actions before → allowed before action →
      step before action = some after → Run step allowed start (actions ++ [action]) after

variable {step : S → A → Option S} {allowed weaker : S → A → Prop}
variable {start before after : S} {actions more : List A} {action : A}

/-- What holds at the start and is preserved by every allowed step holds in every state
a run reaches. -/
theorem Run.invariant (property : S → Prop) (initial : property start)
    (preserved : ∀ before action after, property before → allowed before action →
      step before action = some after → property after)
    (run : Run step allowed start actions after) : property after := by
  induction run with
  | nil => exact initial
  | snoc _ permitted moved held => exact preserved _ _ _ held permitted moved

/-- A run that keeps a condition is a run. -/
theorem Run.weaken (implied : ∀ state action, allowed state action → weaker state action)
    (run : Run step allowed start actions after) : Run step weaker start actions after := by
  induction run with
  | nil => exact .nil
  | snoc _ permitted moved shorter => exact .snoc shorter (implied _ _ permitted) moved

/-- Every step of a run is taken from a state where the invariant holds. -/
theorem Run.along (property : S → Prop) (initial : property start)
    (preserved : ∀ before action after, property before → allowed before action →
      step before action = some after → property after)
    (run : Run step allowed start actions after) :
    Run step (fun state action => allowed state action ∧ property state) start actions after := by
  induction run with
  | nil => exact .nil
  | snoc shorter permitted moved ih =>
    exact .snoc ih ⟨permitted, shorter.invariant property initial preserved⟩ moved

theorem Run.append (first : Run step allowed start actions before)
    (second : Run step allowed before more after) :
    Run step allowed start (actions ++ more) after := by
  induction second with
  | nil => simpa using first
  | snoc _ permitted moved longer =>
    rw [← List.append_assoc]
    exact .snoc longer permitted moved

/-- One more allowed step. -/
theorem Run.single (permitted : allowed start action) (moved : step start action = some after) :
    Run step allowed start [action] after :=
  .snoc .nil permitted moved

/-- The state an action sequence leads to, if every action is possible in its turn. -/
def execute (step : S → A → Option S) : S → List A → Option S
  | state, [] => some state
  | state, action :: rest => (step state action).bind (execute step · rest)

theorem execute_append (step : S → A → Option S) (state : S) (actions more : List A) :
    execute step state (actions ++ more) =
      (execute step state actions).bind (execute step · more) := by
  induction actions generalizing state with
  | nil => rfl
  | cons action rest ih => simp [execute, ih, Option.bind_assoc]

/-- Steps that are always possible are carried out one after the other. -/
theorem execute_total (apply : S → A → S) (state : S) (actions : List A) :
    execute (fun state action => some (apply state action)) state actions =
      some (actions.foldl apply state) := by
  induction actions generalizing state with
  | nil => rfl
  | cons action rest ih => simp [execute, ih]

/-- An executed sequence is a run when its actions are always allowed. -/
theorem Run.of_execute (met : ∀ action ∈ actions, ∀ state, allowed state action)
    (executed : execute step start actions = some after) : Run step allowed start actions after := by
  induction actions generalizing start with
  | nil =>
    cases executed
    exact .nil
  | cons action rest ih =>
    obtain ⟨next, moved, executed⟩ := Option.bind_eq_some_iff.mp executed
    have later := ih (fun action performed => met action (List.mem_cons_of_mem _ performed)) executed
    have first := Run.single (met action List.mem_cons_self start) moved
    simpa using first.append later

/-- A sequence that can be executed is a run. -/
theorem Run.exists_of_execute (possible : (execute step start actions).isSome = true) :
    ∃ after, execute step start actions = some after ∧ Run step Any start actions after := by
  obtain ⟨after, executed⟩ := Option.isSome_iff_exists.mp possible
  exact ⟨after, executed, .of_execute (fun _ _ _ => trivial) executed⟩

/-- The steps a decidable condition permits. -/
def guarded (permits : S → A → Bool) (step : S → A → Option S) : S → A → Option S :=
  fun state action => if permits state action then step state action else none

/-- An executed sequence of permitted steps is a run that keeps the condition. -/
theorem Run.of_guarded {permits : S → A → Bool}
    (executed : execute (guarded permits step) start actions = some after) :
    Run step (permits · ·) start actions after := by
  induction actions generalizing start with
  | nil =>
    cases executed
    exact .nil
  | cons action rest ih =>
    obtain ⟨next, moved, executed⟩ := Option.bind_eq_some_iff.mp executed
    simp only [guarded] at moved
    split at moved
    · simpa using (Run.single ‹_› moved).append (ih executed)
    · cases moved

/-- What a run leads to can be executed. -/
theorem Run.execute (run : Run step allowed start actions after) :
    execute step start actions = some after := by
  induction run with
  | nil => rfl
  | snoc _ _ moved shorter => simp [execute_append, shorter, Runs.execute, moved]

/-- The state is one on the way. -/
def Visited (step : S → A → Option S) (start : S) (actions : List A) (state : S) : Prop :=
  ∃ earlier, earlier <+: actions ∧ Runs.execute step start earlier = some state

/-- A run visits the state it leads to. -/
theorem visited_last (executed : Runs.execute step start actions = some after) :
    Visited step start actions after :=
  ⟨actions, List.prefix_rfl, executed⟩

/-- The action is one of the run, taken in this state. -/
def Taken (step : S → A → Option S) (start : S) (actions : List A) (state : S) (action : A) : Prop :=
  ∃ earlier, earlier ++ [action] <+: actions ∧ Runs.execute step start earlier = some state

theorem taken_last (executed : Runs.execute step start actions = some before) :
    Taken step start (actions ++ [action]) before action :=
  ⟨actions, List.prefix_rfl, executed⟩

theorem Taken.append (taken : Taken step start actions before action) (more : List A) :
    Taken step start (actions ++ more) before action := by
  obtain ⟨earlier, shorter, executed⟩ := taken
  exact ⟨earlier, shorter.trans (List.prefix_append actions more), executed⟩

/-- A longer run visits what a shorter one has visited. -/
theorem Visited.append (visited : Visited step start actions before) (more : List A) :
    Visited step start (actions ++ more) before := by
  obtain ⟨earlier, shorter, executed⟩ := visited
  exact ⟨earlier, shorter.trans (List.prefix_append actions more), executed⟩

/-! ## Two systems

One system may follow another: it takes the steps it is told of and waits out the others. -/

variable {S' B : Type} {step' : S' → B → Option S'} {pick : S → A → Option B}
variable {related : S → S' → Prop}

/-- The steps of a second system that the steps of a first one stand for, each read off the state
it leaves. -/
def picked (step : S → A → Option S) (pick : S → A → Option B) : S → List A → List B
  | _, [] => []
  | state, action :: rest =>
    (pick state action).toList ++
      ((step state action).map (picked step pick · rest)).getD []

theorem picked_append (moved : Runs.execute step start actions = some before) :
    picked step pick start (actions ++ more) =
      picked step pick start actions ++ picked step pick before more := by
  induction actions generalizing start with
  | nil =>
    cases moved
    rfl
  | cons action rest ih =>
    obtain ⟨next, first, moved⟩ := Option.bind_eq_some_iff.mp moved
    simp [picked, first, ih moved]

/-- A choice that does not depend on the state only filters the steps. -/
theorem picked_eq_filterMap {choose : A → Option B}
    (moved : Runs.execute step start actions = some after) :
    picked step (fun _ => choose) start actions = actions.filterMap choose := by
  induction actions generalizing start with
  | nil => rfl
  | cons action rest ih =>
    obtain ⟨next, first, moved⟩ := Option.bind_eq_some_iff.mp moved
    cases chosen : choose action <;> simp [picked, first, ih moved, chosen]

/-- If the second system can match every step that is picked, and stays related over the others,
it executes what is picked of a whole run. -/
theorem Run.simulate
    (moves : ∀ state other action next chosen, related state other → allowed state action →
      step state action = some next → pick state action = some chosen →
      ∃ next', step' other chosen = some next' ∧ related next next')
    (stays : ∀ state other action next, related state other → allowed state action →
      step state action = some next → pick state action = none → related next other)
    (run : Run step allowed start actions after) {other : S'} (begins : related start other) :
    ∃ after', Runs.execute step' other (picked step pick start actions) = some after' ∧
      related after after' := by
  induction run with
  | nil => exact ⟨other, rfl, begins⟩
  | @snoc actions before after action run permitted moved ih =>
    obtain ⟨middle, executed, held⟩ := ih
    have last : picked step pick before [action] = (pick before action).toList := by
      simp [picked, moved]
    rw [picked_append run.execute, last, execute_append, executed]
    cases chosen : pick before action with
    | none => exact ⟨middle, rfl, stays _ _ _ _ held permitted moved chosen⟩
    | some action' =>
      obtain ⟨next', matched, held'⟩ := moves _ _ _ _ _ held permitted moved chosen
      exact ⟨next', by simp [Runs.execute, matched], held'⟩

/-- The same steps with a record of the past beside the state. The record is updated from
the state a step leaves, and no step depends on it. -/
def Observed (step : S → A → Option S) (observe : O → S → A → O) : S × O → A → Option (S × O) :=
  fun state action => (step state.1 action).map fun next => (next, observe state.2 state.1 action)

variable {observe : O → S → A → O} {record record' : O}

theorem observed_eq_some {state next : S × O} :
    Observed step observe state action = some next ↔
      step state.1 action = some next.1 ∧ observe state.2 state.1 action = next.2 := by
  simp only [Observed, Option.map_eq_some_iff]
  constructor
  · rintro ⟨reached, moved, rfl⟩
    exact ⟨moved, rfl⟩
  · rintro ⟨moved, recorded⟩
    exact ⟨next.1, moved, Prod.ext rfl recorded⟩

/-- Without the record a run is a run, under what is required of the states alone. -/
theorem Run.forget {permitted : S × O → A → Prop} {first last : S × O}
    (implied : ∀ state action, permitted state action → allowed state.1 action)
    (run : Run (Observed step observe) permitted first actions last) :
    Run step allowed first.1 actions last.1 := by
  induction run with
  | nil => exact .nil
  | snoc _ met moved shorter => exact .snoc shorter (implied _ _ met) (observed_eq_some.mp moved).1

end Runs

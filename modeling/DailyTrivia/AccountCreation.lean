import DailyTrivia.DocumentWrites
import DailyTrivia.TaskFlow

/-!
Account creation against `submitUsername`. Both creation routines read the users document,
await, and write it whole if it was missing; `submitUsername` merges the username into it.

A username that is written while a creation has found the document missing and is yet to
write it is lost. `CreationSettled` excludes that moment, and then a stored username stays
until `submitUsername` replaces it.
-/
namespace DailyTrivia

open Documents Runs

/-- An account's username is never lost in account creation. -/
structure UsernameKept (platform : Platform) (allowed : World → Action → Prop) : Prop where
  /-- Once stored, there is a username in every later state. -/
  kept : ∀ (start before after : World) (actions more : List Action) (key : String),
    Initial start → Run (step platform) allowed start actions before →
    (storedUsername before key).isSome = true →
    Run (step platform) allowed before more after → (storedUsername after key).isSome = true
  /-- It changes only by another `submitUsername` of the account. -/
  changed : ∀ (start before after : World) (actions : List Action) (action : Action)
    (key username : String), Initial start → Run (step platform) allowed start actions before →
    allowed before action → step platform before action = some after →
    storedUsername before key = some username → storedUsername after key = some username ∨
    ∃ chosen, WritesUsername before action key chosen ∧ storedUsername after key = some chosen

/-- An account creation has found the users document of `key` missing and is yet to write it. -/
inductive Creating (key : String) : Job → Prop where
  | found {site : ℕ} {user : FirebaseUser} : key = sanitizedEmail user.email →
      Creating key ⟨site, .signIn (.readUserAccount user), .answered (.snapshot none)⟩
  | writing {site : ℕ} {user : FirebaseUser} : key = sanitizedEmail user.email →
      Creating key ⟨site, .signIn (.writeUserAccount user), .issued⟩
  | foundGoogle {site : ℕ} {user : GIDGoogleUser} : key = googleKey user →
      Creating key ⟨site, .signIn (.readGoogleAccount user), .answered (.snapshot none)⟩
  | writingGoogle {site : ℕ} {user : GIDGoogleUser} : key = googleKey user →
      Creating key ⟨site, .signIn (.writeGoogleAccount user), .issued⟩

/-- No username is written while a creation of the account is about to write it whole. -/
def CreationSettled (w : World) (action : Action) : Prop :=
  ∀ key username, WritesUsername w action key username →
    ∀ number job, w.pool number = some job → ¬ Creating key job

/-- While a creation is about to write an account whole, it has no username. -/
def Unnamed (w : World) : Prop :=
  ∀ number job key, w.pool number = some job → Creating key job → storedUsername w key = none

variable {platform : Platform} {w w' : World} {action : Action} {key username : String}

/-- A username that is stored in a step is written by it; a whole write takes it away. -/
theorem storedUsername_step (moved : Move platform w action w') (key : String) :
    storedUsername w' key = storedUsername w key ∨
    (∃ chosen, WritesUsername w action key chosen ∧ storedUsername w' key = some chosen) ∨
    (storedUsername w' key = none ∧ ∃ number job, w.pool number = some job ∧ Creating key job) := by
  rcases moved.store with same | ⟨number, site, task, reply, rfl, held, served⟩
  · exact .inl (by simp only [storedUsername, same])
  · rcases serve_user served key with same | wrote
    · exact .inl (by simp only [storedUsername, same])
    · simp only [storedUsername]
      generalize get w.store.documents (userRef key) = old at wrote
      generalize get w'.store.documents (userRef key) = new at wrote
      cases wrote with
      | created named => exact .inr (.inr ⟨rfl, number, _, held, .writing named⟩)
      | createdGoogle named => exact .inr (.inr ⟨rfl, number, _, held, .writingGoogle named⟩)
      | named =>
        refine .inr (.inl ⟨_, ⟨number, site, _, rfl, held⟩, ?_⟩)
        exact string_eq_some.mpr (mergeInto_of_some rfl)

/-- A creation that finds the document missing finds no username. -/
theorem storedUsername_missing (missing : get w.store.documents (userRef key) = none) :
    storedUsername w key = none := by
  simp [storedUsername, missing]

/-- A creation about to write was about to write before the step, or has just found the
document missing. -/
theorem creating_step (moved : Move platform w action w') {number : ℕ} {job : Job}
    (present : w'.pool number = some job) (creates : Creating key job) :
    (∃ earlier, w.pool number = some earlier ∧ Creating key earlier) ∨
    (w'.store = w.store ∧ storedUsername w key = none) := by
  cases moved.pool present with
  | kept held => exact .inl ⟨job, held, creates⟩
  | spawned reacted =>
    cases begins_of_react reacted <;> cases creates
  | served held served =>
    cases creates with
    | found named =>
      obtain ⟨stored, missing⟩ := Prod.mk.inj (Option.some.inj served)
      subst named
      exact .inr ⟨stored.symm, storedUsername_missing (Reply.snapshot.inj missing)⟩
    | foundGoogle named =>
      obtain ⟨stored, missing⟩ := Prod.mk.inj (Option.some.inj served)
      subst named
      exact .inr ⟨stored.symm, storedUsername_missing (Reply.snapshot.inj missing)⟩
  | failed held => cases creates
  | resumed held resumed =>
    cases continues_of_resume resumed with
    | accountMissing =>
      cases creates with
      | writing named => exact .inl ⟨_, held, .found named⟩
    | googleAccountMissing =>
      cases creates with
      | writingGoogle named => exact .inl ⟨_, held, .foundGoogle named⟩
    | _ => cases creates

theorem unnamed_step (moved : Move platform w action w') (settled : CreationSettled w action)
    (unnamed : Unnamed w) : Unnamed w' := by
  intro number job key present creates
  rcases creating_step moved present creates with ⟨earlier, held, creating⟩ | ⟨same, none⟩
  · rcases storedUsername_step moved key with same | ⟨chosen, writes, _⟩ | ⟨none, _⟩
    · rw [same]
      exact unnamed number earlier key held creating
    · exact absurd creating (settled key chosen writes number earlier held)
    · exact none
  · simpa only [storedUsername, same] using none

theorem unnamed_of_initial (initial : Initial w) : Unnamed w := by
  intro number job key present
  simp [initial.noJob] at present

theorem unnamed_run {start after : World} {actions : List Action} (initial : Initial start)
    (run : Run (step platform) CreationSettled start actions after) : Unnamed after :=
  run.invariant Unnamed (unnamed_of_initial initial)
    fun _ _ _ held settled moved => unnamed_step (Async.move_of_step moved) settled held

/-- With every username written outside a creation of its account, a stored username stays
until it is replaced. -/
theorem username_step (moved : Move platform w action w') (unnamed : Unnamed w)
    (stored : storedUsername w key = some username) :
    storedUsername w' key = some username ∨
    ∃ chosen, WritesUsername w action key chosen ∧ storedUsername w' key = some chosen := by
  rcases storedUsername_step moved key with
    same | written | ⟨_, number, job, held, creating⟩
  · exact .inl (same.trans stored)
  · exact .inr written
  · have none := unnamed number job key held creating
    rw [stored] at none
    cases none

/-- A username is stored and kept as long as it is only written outside the creation of its
account. -/
theorem usernameKept_of_creationSettled (platform : Platform) :
    UsernameKept platform CreationSettled where
  kept start before after actions more key initial run stored later := by
    refine (later.invariant
      (fun w => Unnamed w ∧ (storedUsername w key).isSome = true)
      ⟨unnamed_run initial run, stored⟩ ?_).2
    rintro w action w' ⟨unnamed, stored⟩ settled moved
    obtain ⟨username, stored⟩ := Option.isSome_iff_exists.mp stored
    refine ⟨unnamed_step (Async.move_of_step moved) settled unnamed, ?_⟩
    rcases username_step (Async.move_of_step moved) unnamed stored with kept | ⟨_, _, stored⟩
    · rw [kept]
      rfl
    · rw [stored]
      rfl
  changed start before after actions action key username initial run settled moved stored :=
    username_step (Async.move_of_step moved) (unnamed_run initial run) stored

/-- Ann registers. Before her account is created the game view asks her for a username, and
she submits one: it is stored after the creation has read the missing document. -/
def namedEarly : List Action :=
  ([.react 0 (.tapRegister "ann@example.com" "secret") 0] : List Action) ++ advance 0 ++
  advance 0 ++
  ([.react 0 .currentUserChanges 1, .react 0 (.gameViewAppears 0) 1] : List Action) ++ advance 1 ++
  advance 1 ++ advance 1 ++ advance 1 ++
  ([.serve 0, .react 0 (.tapSubmitUsername 0 "annie") 1] : List Action) ++ advance 1 ++
  ([.resume 0, .serve 1] : List Action)

theorem namedEarly_lost :
    ((execute (step march) (firstLaunch []) namedEarly).bind fun before =>
      (execute (step march) before [.serve 0]).map fun after =>
        (storedUsername before "ann_example_com", storedUsername after "ann_example_com")) =
      some (some "annie", none) := by
  decide +kernel

/-- The whole write of an account creation can take a stored username away. -/
theorem not_usernameKept : ¬ UsernameKept march Any := by
  intro claim
  obtain ⟨before, ran, more⟩ := Option.bind_eq_some_iff.mp namedEarly_lost
  obtain ⟨after, later, outcome⟩ := Option.map_eq_some_iff.mp more
  obtain ⟨stored, lost⟩ := Prod.mk.inj outcome
  have kept := claim.kept (firstLaunch []) before after namedEarly [.serve 0] "ann_example_com"
    (initial_firstLaunch []) (.of_execute (fun _ _ _ => trivial) ran) (by rw [stored]; rfl)
    (.of_execute (fun _ _ _ => trivial) later)
  rw [lost] at kept
  cases kept

end DailyTrivia

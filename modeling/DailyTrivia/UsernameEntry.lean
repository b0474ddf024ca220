import DailyTrivia.Accounts
import DailyTrivia.Usernames
import DailyTrivia.GameViews

/-!
Who is asked for a username. The end of a loading opens the username sheet when `currentUser`
has no username at that moment, whether or not a sign-in is still to bring one.

`Awaited` says that a session without a username belongs to an account without one, or to one
whose username is on its way: a lookup is out, or has found it, or it has just been submitted.
`LookupsSettled` has the sheet wait for these tasks, and has none of them fail.
-/
namespace DailyTrivia

open Documents Runs

/-- The sheet is only opened for an account without a username. -/
def UsernameEntry (platform : Platform) (allowed : World → Action → Prop) : Prop :=
  ∀ (start before after : World) (actions : List Action) (action : Action) (site v : ℕ)
    (user : User), Initial start → Run (step platform) allowed start actions before →
    allowed before action → step platform before action = some after →
    ¬ (before.sites site).asks v → (after.sites site).asks v →
    (after.sites site).currentUser = some user → storedUsername after user.email = none

/-- The account whose username a task is to bring into the session. -/
def Task.looksUp : Task → Option String
  | .signIn (.readUserAccount user) => some (sanitizedEmail user.email)
  | .signIn (.readGoogleUsername user) | .signIn (.adoptGoogleUser user) => some (googleKey user)
  | .signIn (.readUsername email) => some (sanitizedEmail email)
  | .enterUsername _ (.writeUsername key _) => some key
  | _ => none

/-- Lookups of usernames succeed, and decisions wait for them. -/
structure LookupsSettled (w : World) (action : Action) : Prop where
  /-- A loading ends when no task of its device is to bring the username of the session. -/
  decided : ∀ number site v task reply user, action = .resume number →
    w.pool number = some ⟨site, .load v task, .answered reply⟩ → task.decides = true →
    (w.sites site).currentUser = some user →
    ∀ other task phase, w.pool other = some ⟨site, task, phase⟩ → task.looksUp ≠ some user.email
  /-- No sign-in fails to look a username up. -/
  answered : ∀ number site task, action = .fail number →
    w.pool number = some ⟨site, .signIn task, .issued⟩ → (Task.signIn task).looksUp = none
  /-- An account that is found decodes. -/
  decodes : ∀ number site user document, action = .resume number →
    w.pool number =
      some ⟨site, .signIn (.readUserAccount user), .answered (.snapshot (some document))⟩ →
    (User.decode document).isSome = true
  /-- A username is chosen when no other device has a session without one. -/
  chosenHere : ∀ number site v key username, action = .serve number →
    w.pool number = some ⟨site, .enterUsername v (.writeUsername key username), .issued⟩ →
    ∀ other user, other ≠ site → (w.sites other).currentUser = some user → user.email = key →
      user.username ≠ none
  /-- A username is chosen when no sign-in holds an older copy of the account. -/
  chosenLast : ∀ key username, WritesUsername w action key username →
    ∀ number site user reply, w.pool number =
      some ⟨site, .signIn (.readUserAccount user), .answered reply⟩ →
      sanitizedEmail user.email ≠ key

/-- A task that will leave the session with the username of `key`, if one is stored. -/
inductive Brings (key : String) : Task → Async.Phase Reply → Prop where
  | account {user : FirebaseUser} : key = sanitizedEmail user.email →
      Brings key (.signIn (.readUserAccount user)) .issued
  | accountFound {user : FirebaseUser} {document : Doc} : key = sanitizedEmail user.email →
      (document.string "username").isSome = true →
      Brings key (.signIn (.readUserAccount user)) (.answered (.snapshot (some document)))
  | googleUsername {user : GIDGoogleUser} : key = googleKey user →
      Brings key (.signIn (.readGoogleUsername user)) .issued
  | googleUsernameRead {user : GIDGoogleUser} {snapshot : Option Doc} : key = googleKey user →
      Brings key (.signIn (.readGoogleUsername user)) (.answered (.snapshot snapshot))
  | adopts {user : GIDGoogleUser} {phase : Async.Phase Reply} : key = googleKey user →
      Brings key (.signIn (.adoptGoogleUser user)) phase
  | username {email : String} : key = sanitizedEmail email →
      Brings key (.signIn (.readUsername email)) .issued
  | usernameFound {email : String} {snapshot : Option Doc} : key = sanitizedEmail email →
      (snapshot.bind fun document => document.string "username").isSome = true →
      Brings key (.signIn (.readUsername email)) (.answered (.snapshot snapshot))
  | chosen {v : ℕ} {username : String} :
      Brings key (.enterUsername v (.writeUsername key username)) (.answered .written)

/-- Nothing is stored for `key`, or a task of the device is to bring it. -/
def Awaits (w : World) (site : ℕ) (key : String) : Prop :=
  storedUsername w key = none ∨
    ∃ number task phase, w.pool number = some ⟨site, task, phase⟩ ∧ Brings key task phase

/-- Sessions without a username await what is stored. -/
structure Awaited (w : World) : Prop where
  accounts : Accounts w
  session : ∀ site user, (w.sites site).currentUser = some user → user.username = none →
    Awaits w site user.email
  /-- An account that was read has no username but the one that was read. -/
  copied : ∀ number site user snapshot, w.pool number =
      some ⟨site, .signIn (.readUserAccount user), .answered (.snapshot snapshot)⟩ →
    ∀ username, storedUsername w (sanitizedEmail user.email) = some username →
      (snapshot.bind fun document => document.string "username") = some username

variable {platform : Platform} {w w' : World} {action : Action} {site number v : ℕ}
variable {key username : String} {task : Task} {phase : Async.Phase Reply} {user : User}

theorem looksUp_of_brings (brings : Brings key task phase) : task.looksUp = some key := by
  cases brings with
  | chosen => rfl
  | account same | googleUsername same | googleUsernameRead same | adopts same | username same =>
    rw [same]
    rfl
  | accountFound same _ | usernameFound same _ =>
    rw [same]
    rfl

/-! ## The decision -/

theorem asks_react {d d' : Device} {event : Event} {next : Option Task}
    (reacted : react platform event d = some (d', next)) (asks : d'.asks v) : d.asks v := by
  have changed : Changes v False True d d' ∨ (d.views v = none ∧ d'.views v = some {}) :=
    react_changes reacted
  rcases changed with changes | ⟨_, opened⟩
  · exact changes.asked trivial asks
  · obtain ⟨view, shown, asks⟩ := asks
    rw [opened] at shown
    cases shown
    cases asks

/-- A segment of a task that opens the sheet ends a loading, and finds no username. -/
theorem asks_resume {d d' : Device} {reply : Reply} {next : Option Task}
    (resumed : resume platform task reply d = (d', next)) (quiet : ¬ d.asks v)
    (asks : d'.asks v) :
    d.username = none ∧ ∃ load : LoadTask, task = .load v load ∧ load.decides = true := by
  have decided : ¬ ∀ load, task = .load v load → load.decides = true → d.username ≠ none := by
    intro silent
    have changes : Changes v False True d d' := resume_changes resumed nofun fun _ => silent
    exact quiet (changes.asked trivial asks)
  obtain ⟨load, decided⟩ := not_forall.mp decided
  simp only [not_forall, not_not] at decided
  obtain ⟨loading, decides, unnamed⟩ := decided
  exact ⟨unnamed, load, loading, decides⟩

/-- The sheet is opened where a loading ends in a session without a username. -/
theorem asks_step (moved : Move platform w action w') (quiet : ¬ (w.sites site).asks v)
    (asks : (w'.sites site).asks v) :
    ∃ number load reply, action = .resume number ∧
      w.pool number = some ⟨site, .load v load, .answered reply⟩ ∧ load.decides = true ∧
      (w.sites site).username = none ∧ (w'.sites site).currentUser = (w.sites site).currentUser := by
  cases moved.memory site with
  | kept same =>
    rw [same] at asks
    exact absurd asks quiet
  | reacted reacted => exact absurd (asks_react reacted asks) quiet
  | @resumed number task reply next held resumed =>
    obtain ⟨unnamed, load, rfl, decides⟩ := asks_resume resumed quiet asks
    have same := congrArg (fun result => result.1.currentUser) resumed
    exact ⟨number, load, reply, rfl, held, decides, unnamed,
      same.symm.trans (load_frame v load reply _).currentUser⟩
  | restarted same =>
    rw [same] at asks
    obtain ⟨view, shown, _⟩ := asks
    cases shown

/-! ## One step -/

/-- A read that finds no username finds an account without one. -/
theorem awaits_read {snapshot : Option Doc}
    (read : storedUsername w key = snapshot.bind fun document => document.string "username")
    (found : (snapshot.bind fun document => document.string "username").isSome = true →
      ∃ number task phase, w.pool number = some ⟨site, task, phase⟩ ∧ Brings key task phase) :
    Awaits w site key := by
  cases stored : storedUsername w key with
  | none => exact .inl stored
  | some username => exact .inr (found (by rw [← read, stored]; rfl))

/-- The task that is to bring a username is moved. -/
theorem awaits_moved (settled : LookupsSettled w action) (accounts : Accounts w)
    (moved : Async.Moved (app platform) w w' number ⟨site, task, phase⟩ action)
    (held : w.pool number = some ⟨site, task, phase⟩) (brings : Brings user.email task phase)
    (present : (w'.sites site).currentUser = some user) (unnamed : user.username = none) :
    Awaits w' site user.email := by
  cases brings with
  | account same =>
    cases moved with
    | served served pool =>
      obtain ⟨stored, rfl⟩ := Prod.mk.inj (Option.some.inj served)
      rw [← same] at pool
      have read : storedUsername w' user.email = (get w.store.documents (userRef user.email)).bind
          fun document => document.string "username" := by rw [storedUsername, ← stored]
      refine awaits_read read fun found => ?_
      cases copied : get w.store.documents (userRef user.email) with
      | none =>
        rw [copied] at found
        cases found
      | some document =>
        rw [copied] at found pool
        exact ⟨number, _, _, pool, .accountFound same found⟩
    | failed pool =>
      have none := settled.answered _ _ _ rfl held
      cases none
  | accountFound same found =>
    cases moved with
    | resumed resumed pool =>
      -- the session is the copy, which has the username
      obtain ⟨copy, decoded⟩ := Option.isSome_iff_exists.mp (settled.decodes _ _ _ _ rfl held)
      obtain ⟨memory, _⟩ := Prod.mk.inj resumed
      simp only [SignInTask.resume, decoded] at memory
      rw [← memory] at present
      cases present
      have named := (decode_keyed decoded (accounts.found _ _ _ _ _ held rfl)).2.2
      rw [← named, unnamed] at found
      cases found
  | googleUsername same =>
    cases moved with
    | served served pool =>
      obtain ⟨_, rfl⟩ := Prod.mk.inj (Option.some.inj served)
      exact .inr ⟨number, _, _, pool, .googleUsernameRead same⟩
    | failed pool =>
      have none := settled.answered _ _ _ rfl held
      cases none
  | googleUsernameRead same =>
    cases moved with
    | resumed resumed pool =>
      obtain ⟨_, rfl⟩ := Prod.mk.inj resumed
      exact .inr ⟨number, _, _, pool, .adopts same⟩
  | adopts same =>
    cases moved with
    | served _ pool | failed pool => exact .inr ⟨number, _, _, pool, .adopts same⟩
    | resumed resumed pool =>
      obtain ⟨memory, rfl⟩ := Prod.mk.inj resumed
      rw [← memory] at present
      cases present
      exact .inr ⟨number, _, _, pool, .username (ofGoogleUser_email _)⟩
  | username same =>
    cases moved with
    | served served pool =>
      obtain ⟨stored, rfl⟩ := Prod.mk.inj (Option.some.inj served)
      rw [← same] at pool
      have read : storedUsername w' user.email = (get w.store.documents (userRef user.email)).bind
          fun document => document.string "username" := by rw [storedUsername, ← stored]
      exact awaits_read read fun found => ⟨number, _, _, pool, .usernameFound same found⟩
    | failed pool =>
      have none := settled.answered _ _ _ rfl held
      cases none
  | usernameFound same found =>
    cases moved with
    | resumed resumed pool =>
      obtain ⟨username, found⟩ := Option.isSome_iff_exists.mp found
      obtain ⟨memory, _⟩ := Prod.mk.inj resumed
      simp only [SignInTask.resume, Device.assignUsername, found] at memory
      rw [← memory] at present
      obtain ⟨before, _, rfl⟩ := Option.map_eq_some_iff.mp present
      cases unnamed
  | chosen =>
    cases moved with
    | resumed resumed pool =>
      obtain ⟨memory, _⟩ := Prod.mk.inj resumed
      rw [← memory] at present
      obtain ⟨before, _, rfl⟩ := Option.map_eq_some_iff.mp present
      cases unnamed

/-- An account without a username gets one in a step that its own device has to make. -/
theorem awaits_unstored (moved : Move platform w action w') (settled : LookupsSettled w action)
    (present : (w.sites site).currentUser = some user) (unnamed : user.username = none)
    (unstored : storedUsername w user.email = none) : Awaits w' site user.email := by
  cases stored : storedUsername w' user.email with
  | none => exact .inl stored
  | some username =>
    rcases storedUsername_origin moved stored with before | ⟨number, here, v, rfl, held⟩
    · rw [unstored] at before
      cases before
    · have same : here = site := by
        by_contra other
        exact settled.chosenHere _ _ _ _ _ rfl held site user (Ne.symm other) present rfl unnamed
      subst same
      cases moved.moved held rfl with
      | served served pool =>
        obtain ⟨_, rfl⟩ := Prod.mk.inj (Option.some.inj served)
        exact .inr ⟨number, _, _, pool, .chosen⟩

/-- A session that stays the same account's, without a username, awaits what it awaited. -/
theorem awaits_kept (moved : Move platform w action w') (settled : LookupsSettled w action)
    (awaited : Awaited w) {before : User} (session : (w.sites site).currentUser = some before)
    (present : (w'.sites site).currentUser = some user) (same : user.email = before.email)
    (unnamed : before.username = none) (unnamed' : user.username = none) :
    Awaits w' site user.email := by
  rcases awaited.session site before session unnamed with
    unstored | ⟨number, task, phase, held, brings⟩
  · rw [same]
    exact awaits_unstored moved settled session unnamed unstored
  · rw [← same] at brings
    by_cases moves : action.moved = some number
    · exact awaits_moved settled awaited.accounts (moved.moved held moves) held brings present unnamed'
    · refine .inr ⟨number, task, phase, moved.stays held moves ?_, brings⟩
      rintro here rfl rfl
      cases moved with
      | restart =>
        simp only [Function.update_self] at present
        cases present

/-- Going on with a reply stores nothing. -/
theorem stored_resume (moved : Move platform w (.resume number) w') (key : String) :
    storedUsername w' key = storedUsername w key := by
  rcases moved.store with same | ⟨_, _, _, _, serves, _⟩
  · rw [storedUsername, same, storedUsername]
  · cases serves

theorem awaits_resumed {reply : Reply} {next : Option Task}
    (moved : Move platform w (.resume number) w') (settled : LookupsSettled w (.resume number))
    (awaited : Awaited w) (held : w.pool number = some ⟨site, task, .answered reply⟩)
    (resumed : resume platform task reply (w.sites site) = (w'.sites site, next))
    (present : (w'.sites site).currentUser = some user) (unnamed : user.username = none) :
    Awaits w' site user.email := by
  have kept : ∀ before, (w.sites site).currentUser = some before → user.email = before.email →
      before.username = none → Awaits w' site user.email := fun before session same named =>
    awaits_kept moved settled awaited session present same named unnamed
  have pool : w'.pool number = next.map (⟨site, ·, .issued⟩) := by
    cases moved.moved held rfl with
    | resumed resumed' pool =>
      rw [pool]
      exact congrArg _ (congrArg Prod.snd (resumed'.symm.trans resumed))
  have happened := assigned_of_resume resumed
  obtain rfl : (resume platform task reply (w.sites site)).2 = next := congrArg Prod.snd resumed
  generalize assigned : (w'.sites site).currentUser = currentUser at present happened
  cases happened with
  | kept => exact kept user present rfl unnamed
  | login | restoredFirebase =>
    cases present
    exact .inr ⟨number, _, _, pool, .username rfl⟩
  | registered =>
    cases present
    exact .inr ⟨number, _, _, pool, .account rfl⟩
  | adopted | googleAccountWritten | restoredGoogle =>
    cases present
    exact .inr ⟨number, _, _, pool, .username (ofGoogleUser_email _)⟩
  | accountFound decoded =>
    cases present
    obtain ⟨email, _, named⟩ := decode_keyed decoded (awaited.accounts.found _ _ _ _ _ held rfl)
    refine .inl ?_
    rw [stored_resume moved, email]
    -- the copy is as new as what is stored
    refine Option.eq_none_iff_forall_ne_some.mpr fun username stored => ?_
    have found := awaited.copied _ _ _ _ held username stored
    rw [Option.bind_some, ← named, unnamed] at found
    cases found
  | googleAccountFound decoded =>
    cases present
    obtain ⟨email, _, _⟩ := decode_keyed decoded (awaited.accounts.found _ _ _ _ _ held rfl)
    simp only [resume, SignInTask.resume, decoded] at pool
    exact .inr ⟨number, _, _, pool, .googleUsername email⟩
  | googleUsername _ | username _ | named =>
    obtain ⟨before, _, rfl⟩ := Option.map_eq_some_iff.mp present
    cases unnamed
  | streak _ | reset | counted =>
    obtain ⟨before, session, rfl⟩ := Option.map_eq_some_iff.mp present
    exact kept before session rfl unnamed
  | loggedOut => cases present

theorem session_step (moved : Move platform w action w') (settled : LookupsSettled w action)
    (awaited : Awaited w) (present : (w'.sites site).currentUser = some user)
    (unnamed : user.username = none) : Awaits w' site user.email := by
  cases moved.memory site with
  | kept same =>
    have session := present
    rw [same] at session
    exact awaits_kept moved settled awaited session present rfl unnamed unnamed
  | reacted reacted =>
    have session := present
    rw [react_currentUser reacted] at session
    exact awaits_kept moved settled awaited session present rfl unnamed unnamed
  | resumed held resumed => exact awaits_resumed moved settled awaited held resumed present unnamed
  | restarted same =>
    rw [same] at present
    cases present

theorem copied_step (moved : Move platform w action w') (settled : LookupsSettled w action)
    (awaited : Awaited w) {user : FirebaseUser} {snapshot : Option Doc}
    (present : w'.pool number =
      some ⟨site, .signIn (.readUserAccount user), .answered (.snapshot snapshot)⟩)
    (stored : storedUsername w' (sanitizedEmail user.email) = some username) :
    (snapshot.bind fun document => document.string "username") = some username := by
  cases moved.pool present with
  | kept held _ =>
    rcases storedUsername_origin moved stored with before | writes
    · exact awaited.copied _ _ _ _ held username before
    · exact absurd rfl (settled.chosenLast _ _ writes _ _ _ _ held)
  | served held served =>
    obtain ⟨same, read⟩ := Prod.mk.inj (Option.some.inj served)
    rw [← Reply.snapshot.inj read, ← stored, storedUsername, ← same]

theorem awaited_step (moved : Move platform w action w') (settled : LookupsSettled w action)
    (awaited : Awaited w) : Awaited w' where
  accounts := accounts_step moved awaited.accounts
  session _ _ present unnamed := session_step moved settled awaited present unnamed
  copied _ _ _ _ present _ stored := copied_step moved settled awaited present stored

/-! ## Runs -/

theorem awaited_of_initial (initial : Initial w) : Awaited w where
  accounts := accounts_of_initial initial
  session site user present := by
    rw [initial.newInstallation site] at present
    cases present
  copied number site user snapshot present := by simp [initial.noJob] at present

/-- Only accounts without a username are asked for one, if the sheet waits for the lookups and
they succeed. -/
theorem usernameEntry_of_lookupsSettled (platform : Platform) :
    UsernameEntry platform LookupsSettled := by
  intro start before after actions action site v user initial run settled moved quiet asks present
  have awaited : Awaited before :=
    run.invariant Awaited (awaited_of_initial initial)
      fun _ _ _ held settled moved => awaited_step (Async.move_of_step moved) settled held
  have moved := Async.move_of_step moved
  obtain ⟨number, load, reply, rfl, held, decides, unnamed, same⟩ := asks_step moved quiet asks
  rw [same] at present
  have unnamed : user.username = none := by simpa [Device.username, present] using unnamed
  rw [stored_resume moved]
  rcases awaited.session site user present unnamed with
    unstored | ⟨other, task, phase, pending, brings⟩
  · exact unstored
  · exact absurd (looksUp_of_brings brings)
      (settled.decided _ _ _ _ _ _ rfl held decides present other task phase pending)

/-- Annie launches the app again, and the question is there before her username. -/
def askedWhileLookedUp : List Action :=
  signUp 0 "ann@example.com" "annie" ++
  ([.restart 0, .react 0 .loginViewAppears 0] : List Action) ++ advance 0 ++
  ([.react 0 .currentUserChanges 1, .react 0 (.gameViewAppears 0) 1] : List Action) ++ advance 1 ++
  advance 1 ++ advance 1 ++
  ([.serve 1] : List Action)

theorem askedWhileLookedUp_named :
    ((execute (step march) (firstLaunch [capital]) askedWhileLookedUp).bind fun before =>
      (step march before (.resume 1)).map fun after =>
        (((before.sites 0).views 0).map (·.showUsernameEntry),
          ((after.sites 0).views 0).map (·.showUsernameEntry),
          (after.sites 0).currentUser, storedUsername after "ann_example_com")) =
      some (some false, some true,
        some { email := "ann_example_com", id := "uid of ann@example.com" }, some "annie") := by
  decide +kernel

/-- A player can be asked for a username while the stored one is being read. -/
theorem not_usernameEntry : ¬ UsernameEntry march Any := by
  intro claim
  obtain ⟨before, ran, more⟩ := Option.bind_eq_some_iff.mp askedWhileLookedUp_named
  obtain ⟨after, moved, reached⟩ := Option.map_eq_some_iff.mp more
  obtain ⟨closed, opened, present, stored⟩ :
      ((before.sites 0).views 0).map (·.showUsernameEntry) = some false ∧
      ((after.sites 0).views 0).map (·.showUsernameEntry) = some true ∧
      (after.sites 0).currentUser = some { email := "ann_example_com", id := "uid of ann@example.com" } ∧
      storedUsername after "ann_example_com" = some "annie" := by simpa using reached
  have quiet : ¬ (before.sites 0).asks 0 := by
    rintro ⟨view, shown, asks⟩
    simp [shown, asks] at closed
  have asks : (after.sites 0).asks 0 := by
    obtain ⟨view, shown, asks⟩ := Option.map_eq_some_iff.mp opened
    exact ⟨view, shown, asks⟩
  have unstored := claim _ before after askedWhileLookedUp (.resume 1) 0 0 _ (initial_firstLaunch _)
    (.of_execute (fun _ _ _ => trivial) ran) trivial moved quiet asks present
  rw [stored] at unstored
  cases unstored

end DailyTrivia

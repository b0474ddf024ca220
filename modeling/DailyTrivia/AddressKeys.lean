import DailyTrivia.Accounts
import DailyTrivia.References

/-!
E-mail addresses as keys. `sanitizedEmail` makes one letter of '.', '@' and '_' and leaves '/' as
it is, and Firestore splits the key at '/'. So an address need not have a users document, and two
addresses can have the same one.

A run is observed to know which account a users document is read or written for: whoever the
device has last signed in, from the moment a username is submitted.
-/
namespace DailyTrivia

open Documents Runs Segments Function

/-! ## The keys -/

/-- `sanitizedEmail` does not tell these letters apart. -/
def Alike (first second : Char) : Prop :=
  first = second ∨ (first ∈ ['.', '@', '_'] ∧ second ∈ ['.', '@', '_'])

/-- The addresses have the same parts between slashes, but for letters that are alike. -/
def SameParts (first second : String) : Prop :=
  List.Forall₂ (List.Forall₂ Alike) (segments '/' first.toList) (segments '/' second.toList)

instance : DecidableRel Alike := fun first second =>
  inferInstanceAs (Decidable (first = second ∨ (first ∈ ['.', '@', '_'] ∧ second ∈ ['.', '@', '_'])))

instance (first second : String) : Decidable (SameParts first second) :=
  inferInstanceAs (Decidable (List.Forall₂ (List.Forall₂ Alike) _ _))

/-- No two slashes stand together in the address, and its parts are odd in number. -/
def SplitsEvenly (address : String) : Prop :=
  ¬ Doubled '/' address.toList ∧ (segments '/' address.toList).length % 2 = 1

/-- The path of the users document of an address, if there is one. -/
def usersPath (address : String) : ResourcePath :=
  "users" :: (segments '/' (sanitizedEmail address).toList).map String.ofList

/-- `sanitizedEmail`, letter by letter. -/
def sanitizedLetter (letter : Char) : Char :=
  if letter = '.' ∨ letter = '@' then '_' else letter

variable {platform : Platform} {first second address key : String} {path : ResourcePath}

theorem sanitizedEmail_eq_map (address : String) :
    (sanitizedEmail address).toList = address.toList.map sanitizedLetter := by
  unfold sanitizedEmail replacingOccurrences
  simp only [String.toList_ofList, List.map_map]
  refine List.map_congr_left fun letter _ => ?_
  unfold sanitizedLetter
  grind

theorem sanitizedLetter_eq_iff {letter letter' : Char} :
    sanitizedLetter letter = sanitizedLetter letter' ↔ Alike letter letter' := by
  unfold sanitizedLetter Alike
  grind

/-- Slashes stay, and nothing becomes one. -/
theorem sanitizedLetter_slash (letter : Char) : sanitizedLetter letter = '/' ↔ letter = '/' := by
  unfold sanitizedLetter
  grind

theorem segments_sanitizedEmail (address : String) :
    segments '/' (sanitizedEmail address).toList =
      (segments '/' address.toList).map (List.map sanitizedLetter) := by
  rw [sanitizedEmail_eq_map, segments_map sanitizedLetter_slash]

/-- When the users document of an address is named, and how. -/
theorem usersDocument_eq_ok : usersDocument (sanitizedEmail address) = .ok path ↔
    SplitsEvenly address ∧ path = usersPath address := by
  have parts : ∀ change : List Char → String,
      ((segments '/' (sanitizedEmail address).toList).map change).length =
        (segments '/' address.toList).length := by
    simp [segments_sanitizedEmail]
  have doubled : Doubled '/' (sanitizedEmail address).toList ↔ Doubled '/' address.toList := by
    rw [sanitizedEmail_eq_map]
    exact doubled_map sanitizedLetter_slash address.toList
  rw [usersDocument_eq, documentWithPath_eq_ok, doubled]
  constructor
  · rintro ⟨-, single, even, rfl⟩
    rw [List.length_append, List.length_singleton, parts] at even
    exact ⟨⟨single, by omega⟩, rfl⟩
  · rintro ⟨⟨single, odd⟩, rfl⟩
    refine ⟨?_, single, ?_, rfl⟩
    · -- an address without letters has no parts
      intro empty
      have none : (segments '/' address.toList).length = 0 := by
        rw [← parts String.ofList, empty]
        rfl
      omega
    · rw [usersPath, List.length_cons, parts]
      omega

theorem map_eq_map_iff_forall₂ {α β : Type} {change : α → β} {one other : List α} :
    one.map change = other.map change ↔
      List.Forall₂ (fun a b => change a = change b) one other := by
  rw [← List.forall₂_eq_eq_eq, List.forall₂_map_left_iff, List.forall₂_map_right_iff]

/-- Two addresses have one users document exactly when their parts are the same. -/
theorem usersPath_eq_iff : usersPath first = usersPath second ↔ SameParts first second := by
  have letters : Function.Injective String.ofList := fun _ _ => String.ofList_inj.mp
  rw [usersPath, usersPath, List.cons_inj_right, (List.map_injective_iff.mpr letters).eq_iff,
    segments_sanitizedEmail, segments_sanitizedEmail, map_eq_map_iff_forall₂]
  simp only [map_eq_map_iff_forall₂, sanitizedLetter_eq_iff]
  rfl

/-! ## The accounts a run works for -/

/-- The address of the account a sign-in works for. -/
def SignInTask.worksFor : SignInTask → Option String
  | .login email | .register email | .registerSignIn email => some email
  | .readUserAccount user | .writeUserAccount user | .restoreFirebase user => some user.email
  | .google user | .readGoogleAccount user | .readGoogleUsername user | .writeGoogleAccount user
  | .adoptGoogleUser user | .restoreGoogle user => user.email
  | .readUsername email | .fetchUserStreak email | .readStreak email _ | .resetStreak email _ =>
    some email

/-- The address a sign-in assigns `currentUser` for when it goes on with a reply. -/
def SignInTask.signsIn : SignInTask → Reply → Option String
  | .login _, .firebaseUser user | .registerSignIn _, .firebaseUser user => some user.email
  | .readUserAccount user, .snapshot (some document) =>
    (User.decode document).map fun _ => user.email
  | .readGoogleAccount user, .snapshot (some document) =>
    (User.decode document).map fun _ => user.email.getD ""
  | .adoptGoogleUser user, _ | .writeGoogleAccount user, .written
  | .restoreGoogle _, .googleUser user => some (user.email.getD "")
  | .restoreFirebase user, _ => some user.email
  | _, _ => none

/-- Who each device has last signed in, and for whom each job submits a username. -/
structure Holders where
  signedIn : ℕ → Option String := fun _ => none
  naming : ℕ → Option String := fun _ => none

def observeHolders (holders : Holders) (w : World) : Action → Holders
  | .resume number =>
    match w.pool number with
    | some ⟨site, .signIn task, .answered reply⟩ =>
      match task.signsIn reply with
      | some address => { holders with signedIn := update holders.signedIn site (some address) }
      | none => holders
    | some ⟨site, .enterUsername _ (.submitUsername _), .answered _⟩ =>
      { holders with naming := update holders.naming number (holders.signedIn site) }
    | _ => holders
  | _ => holders

/-- The app and the accounts it works for. -/
abbrev holderStep (platform : Platform) : World × Holders → Action → Option (World × Holders) :=
  Observed (step platform) observeHolders

/-- The address of the account a job works for. -/
def Holders.worksFor (holders : Holders) (number : ℕ) : Task → Option String
  | .signIn task => task.worksFor
  | .enterUsername _ (.writeUsername _ _) => holders.naming number
  | _ => none

/-- The id of the users document a call reads or writes. -/
def Call.usersKey : Call → Option String
  | .getDocument ⟨.users, key⟩ | .setData ⟨.users, key⟩ _ | .mergeData ⟨.users, key⟩ _ => some key
  | _ => none

/-- A users document is asked for under this key, for the account of this address. -/
def Forms (platform : Platform) (s : World × Holders) (address key : String) : Prop :=
  ∃ number site task phase, s.1.pool number = some ⟨site, task, phase⟩ ∧
    s.2.worksFor number task = some address ∧ (call platform task).usersKey = some key

/-- Each of the two accounts has one path in all runs, and the paths are different. -/
def AccountsApart (platform : Platform) (first second : String) : Prop :=
  ∃ path path', path ≠ path' ∧
    ∀ (start : World) (after : World × Holders) (actions : List Action) (key : String),
      Initial start → Run (holderStep platform) Any (start, {}) actions after →
      (Forms platform after first key → usersDocument key = .ok path) ∧
      (Forms platform after second key → usersDocument key = .ok path')

/-- What a run keeps of the accounts it works for. -/
structure HoldersKeyed (w : World) (holders : Holders) : Prop where
  accounts : Accounts w
  session : ∀ site user, (w.sites site).currentUser = some user → ∃ address,
    holders.signedIn site = some address ∧ user.email = sanitizedEmail address
  naming : ∀ number site v key username phase,
    w.pool number = some ⟨site, .enterUsername v (.writeUsername key username), phase⟩ →
    ∃ address, holders.naming number = some address ∧ key = sanitizedEmail address

variable {d d' : Device} {reply : Reply} {w w' : World} {action : Action} {holders : Holders}
variable {site : ℕ} {user : User}

theorem assign_account (d : Device) (change : User → User)
    (keeps : ∀ user, (change user).email = user.email) : (d.assign change).account = d.account := by
  cases signedIn : d.currentUser <;> simp [Device.assign, Device.account, signedIn, keeps]

theorem assignUsername_account (d : Device) (snapshot : Option Doc) :
    (d.assignUsername snapshot).account = d.account := by
  unfold Device.assignUsername
  split
  · apply assign_account
    intro user
    rfl
  · rfl

theorem assignStreak_account (d : Device) (streak : Int) :
    (d.assignStreak streak).account = d.account := by
  apply assign_account
  intro user
  rfl

/-- A document that decodes signs its account in; another leaves whoever is signed in. -/
theorem session_of_document {document : Doc} {key address : String} {next : Option SignInTask}
    (keyed : Keyed key document) (named : key = sanitizedEmail address)
    (signedIn : (match User.decode document with
      | some stored => ({ d with currentUser := some stored }, next)
      | none => (d, none) : Device × Option SignInTask).1.currentUser = some user) :
    (∃ signsIn, (User.decode document).map (fun _ => address) = some signsIn ∧
      user.email = sanitizedEmail signsIn) ∨
    ((User.decode document).map (fun _ => address) = none ∧ d.account = some user.email) := by
  cases decoded : User.decode document with
  | none =>
    simp only [decoded] at signedIn
    exact .inr ⟨rfl, congrArg (Option.map User.email) signedIn⟩
  | some stored =>
    simp only [decoded, Option.some.injEq] at signedIn
    subst signedIn
    exact .inl ⟨address, rfl, (decode_keyed decoded keyed).1.trans named⟩

/-- A sign-in assigns the account it works for, or leaves whoever is signed in. -/
theorem signIn_session (task : SignInTask)
    (addressed : ∀ user, task.googleUser = some user → user.email.isSome = true)
    (found : ∀ key document, reply = .snapshot (some document) → task.decodes = some key →
      Keyed key document) (signedIn : (task.resume reply d).1.currentUser = some user) :
    (∃ address, task.signsIn reply = some address ∧ user.email = sanitizedEmail address) ∨
      (task.signsIn reply = none ∧ d.account = some user.email) := by
  cases task with
  | login email | registerSignIn email =>
    cases reply with
    | firebaseUser user =>
      cases signedIn
      exact .inl ⟨user.email, rfl, rfl⟩
    | _ => exact .inr ⟨rfl, congrArg (Option.map User.email) signedIn⟩
  | readUserAccount account =>
    cases reply with
    | snapshot snapshot =>
      cases snapshot with
      | none => exact .inr ⟨rfl, congrArg (Option.map User.email) signedIn⟩
      | some document => exact session_of_document (found _ document rfl rfl) rfl signedIn
    | _ => exact .inr ⟨rfl, congrArg (Option.map User.email) signedIn⟩
  | readGoogleAccount account =>
    cases reply with
    | snapshot snapshot =>
      cases snapshot with
      | none => exact .inr ⟨rfl, congrArg (Option.map User.email) signedIn⟩
      | some document =>
        have named : googleKey account = sanitizedEmail (account.email.getD "") := by
          rw [googleKey_of_address (addressed account rfl), ofGoogleUser_email]
        exact session_of_document (found _ document rfl rfl) named signedIn
    | _ => exact .inr ⟨rfl, congrArg (Option.map User.email) signedIn⟩
  | readGoogleUsername _ | readUsername _ =>
    cases reply with
    | snapshot snapshot =>
      refine .inr ⟨rfl, ?_⟩
      rw [← assignUsername_account d snapshot]
      exact congrArg (Option.map User.email) signedIn
    | _ => exact .inr ⟨rfl, congrArg (Option.map User.email) signedIn⟩
  | adoptGoogleUser user =>
    cases signedIn
    exact .inl ⟨_, rfl, ofGoogleUser_email user⟩
  | writeGoogleAccount user =>
    cases reply with
    | written =>
      cases signedIn
      exact .inl ⟨_, rfl, ofGoogleUser_email user⟩
    | _ => exact .inr ⟨rfl, congrArg (Option.map User.email) signedIn⟩
  | restoreFirebase user =>
    cases signedIn
    exact .inl ⟨_, rfl, rfl⟩
  | restoreGoogle saved =>
    cases reply with
    | googleUser user =>
      cases signedIn
      exact .inl ⟨_, rfl, ofGoogleUser_email user⟩
    | _ => exact .inr ⟨rfl, congrArg (Option.map User.email) signedIn⟩
  | readStreak email username =>
    cases reply with
    | snapshot snapshot =>
      refine .inr ⟨rfl, ?_⟩
      simp only [SignInTask.resume] at signedIn
      split at signedIn
      · rw [← assignStreak_account d _]
        exact congrArg (Option.map User.email) signedIn
      · split at signedIn <;> exact congrArg (Option.map User.email) signedIn
    | _ => exact .inr ⟨rfl, congrArg (Option.map User.email) signedIn⟩
  | resetStreak email username =>
    cases reply with
    | written =>
      refine .inr ⟨rfl, ?_⟩
      rw [← assignStreak_account d 0]
      exact congrArg (Option.map User.email) signedIn
    | _ => exact .inr ⟨rfl, congrArg (Option.map User.email) signedIn⟩
  | _ => cases reply <;> exact .inr ⟨rfl, congrArg (Option.map User.email) signedIn⟩

/-- Whatever else goes on leaves the account that is signed in, or takes it away. -/
theorem resume_account {task : Task} {next : Option Task}
    (resumed : resume platform task reply d = (d', next)) (other : ∀ task', task ≠ .signIn task')
    (signedIn : d'.currentUser = some user) : d.account = some user.email := by
  have assigned := assigned_of_resume resumed
  rw [signedIn] at assigned
  generalize after : some user = left at assigned
  cases assigned with
  | kept => exact congrArg (Option.map User.email) after.symm
  | named | counted =>
    obtain ⟨before, was, rfl⟩ := Option.map_eq_some_iff.mp after.symm
    exact congrArg (Option.map User.email) was
  | loggedOut => cases after
  | _ => exact absurd rfl (other _)

/-- Only a sign-in on a device changes whom it has signed in. -/
theorem observeHolders_signedIn
    (other : ∀ number task reply, action = .resume number →
      w.pool number ≠ some ⟨site, .signIn task, .answered reply⟩) :
    (observeHolders holders w action).signedIn site = holders.signedIn site := by
  unfold observeHolders
  split
  · rename_i number
    split
    · rename_i site' task reply held
      split
      · have apart : site ≠ site' := fun same => other number task reply rfl (same ▸ held)
        simp [apart]
      · rfl
    · rfl
    · rfl
  · rfl

theorem observeHolders_naming {number : ℕ} (unmoved : action.moved ≠ some number) :
    (observeHolders holders w action).naming number = holders.naming number := by
  unfold observeHolders
  split
  · rename_i resumed
    have apart : number ≠ resumed := fun same => unmoved (congrArg some same.symm)
    split
    · split <;> rfl
    · simp [apart]
    · rfl
  · rfl

section Step

variable (moved : Move platform w action w') (keyed : HoldersKeyed w holders)

include moved keyed

theorem heldSession_step (signedIn : (w'.sites site).currentUser = some user) : ∃ address,
    (observeHolders holders w action).signedIn site = some address ∧
      user.email = sanitizedEmail address := by
  have before : (w.sites site).account = some user.email → ∃ address,
      holders.signedIn site = some address ∧ user.email = sanitizedEmail address := by
    intro account
    obtain ⟨user', was, same⟩ := Option.map_eq_some_iff.mp account
    rw [← same]
    exact keyed.session site user' was
  by_cases signIn : ∃ number task reply, action = .resume number ∧
      w.pool number = some ⟨site, .signIn task, .answered reply⟩
  · obtain ⟨number, task, reply, rfl, held⟩ := signIn
    cases moved.moved held rfl with
    | resumed resumed _ =>
      have same : (task.resume reply (w.sites site)).1 = w'.sites site := congrArg Prod.fst resumed
      rw [← same] at signedIn
      have found : ∀ key document, reply = .snapshot (some document) → task.decodes = some key →
          Keyed key document := by
        rintro key document rfl
        exact keyed.accounts.found number site task key document held
      rcases signIn_session task (keyed.accounts.addressed number site task _ · held) found signedIn
        with ⟨address, signs, mine⟩ | ⟨signs, account⟩
      · exact ⟨address, by simp [observeHolders, held, signs], mine⟩
      · simpa [observeHolders, held, signs] using before account
  · have other : ∀ number task reply, action = .resume number →
        w.pool number ≠ some ⟨site, .signIn task, .answered reply⟩ :=
      fun number task reply resumes held => signIn ⟨number, task, reply, resumes, held⟩
    rw [observeHolders_signedIn other]
    cases moved.memory site with
    | kept same =>
      rw [same] at signedIn
      exact keyed.session site user signedIn
    | reacted reacted =>
      rw [react_currentUser reacted] at signedIn
      exact keyed.session site user signedIn
    | resumed held resumed =>
      refine before (resume_account resumed ?_ signedIn)
      rintro task rfl
      exact other _ task _ rfl held
    | restarted same =>
      rw [same] at signedIn
      cases signedIn

theorem heldNaming_step {number v : ℕ} {username : String} {phase : Async.Phase Reply}
    (held : w'.pool number = some ⟨site, .enterUsername v (.writeUsername key username), phase⟩) :
    ∃ address, (observeHolders holders w action).naming number = some address ∧
      key = sanitizedEmail address := by
  cases moved.pool held with
  | kept before unmoved =>
    rw [observeHolders_naming unmoved]
    exact keyed.naming number site v key username phase before
  | spawned reacted _ => cases begins_of_react reacted
  | served before _ | failed before => exact keyed.naming number site v key username .issued before
  | resumed before resumed =>
    cases continues_of_resume resumed with
    | submitUsername account =>
      obtain ⟨user, signedIn, rfl⟩ := Option.map_eq_some_iff.mp account
      obtain ⟨address, known, mine⟩ := keyed.session site user signedIn
      refine ⟨address, by simp [observeHolders, before, known], ?_⟩
      rw [mine, sanitizedEmail_sanitizedEmail]

theorem holdersKeyed_step : HoldersKeyed w' (observeHolders holders w action) where
  accounts := accounts_step moved keyed.accounts
  session _ _ signedIn := heldSession_step moved keyed signedIn
  naming _ _ _ _ _ _ held := heldNaming_step moved keyed held

end Step

theorem holdersKeyed_of_initial (initial : Initial w) : HoldersKeyed w {} where
  accounts := accounts_of_initial initial
  session site user signedIn := by
    rw [initial.newInstallation] at signedIn
    cases signedIn
  naming := by simp [initial.noJob]

theorem holdersKeyed_run {start : World} {after : World × Holders} {actions : List Action}
    (initial : Initial start)
    (run : Run (holderStep platform) Any (start, {}) actions after) :
    HoldersKeyed after.1 after.2 := by
  refine run.invariant (fun s => HoldersKeyed s.1 s.2) (holdersKeyed_of_initial initial) ?_
  rintro before action after keyed - moved
  obtain ⟨moved, recorded⟩ := observed_eq_some.mp moved
  rw [← recorded]
  exact holdersKeyed_step (Async.move_of_step moved) keyed

/-- Whatever document is asked for an account, its id is the sanitized address. -/
theorem key_of_forms (keyed : HoldersKeyed w holders)
    (forms : Forms platform (w, holders) address key) : key = sanitizedEmail address := by
  obtain ⟨number, site, task, phase, held, holder, asked⟩ := forms
  cases task with
  | signIn task =>
    cases task with
    | readUserAccount user | writeUserAccount user | readUsername email =>
      cases holder
      cases asked
      rfl
    | readGoogleAccount user | writeGoogleAccount user =>
      have named : user.email = some address := holder
      cases asked
      simp [googleKey, named]
    | readGoogleUsername user =>
      have named : user.email = some address := holder
      cases asked
      simp [named, sanitizedEmail_sanitizedEmail]
    | _ => cases asked
  | enterUsername v task =>
    cases task with
    | writeUsername key' username =>
      cases asked
      obtain ⟨address', known, rfl⟩ := keyed.naming number site v key username phase held
      cases holder.symm.trans known
      rfl
    | submitUsername username => cases asked
  | load v task | submit v task | review v task => cases task <;> cases asked
  | logout v signOutThrows => cases asked

/-- No users document is asked for but for some account. -/
theorem forms_of_asked (keyed : HoldersKeyed w holders) {number : ℕ} {task : Task}
    {phase : Async.Phase Reply} (held : w.pool number = some ⟨site, task, phase⟩)
    (asked : (call platform task).usersKey = some key) :
    ∃ address, Forms platform (w, holders) address key := by
  suffices named : ∃ address, holders.worksFor number task = some address by
    obtain ⟨address, named⟩ := named
    exact ⟨address, number, site, task, phase, held, named, asked⟩
  cases task with
  | signIn task =>
    cases task with
    | readUserAccount user | writeUserAccount user | readUsername email => exact ⟨_, rfl⟩
    | readGoogleAccount user | writeGoogleAccount user | readGoogleUsername user =>
      exact Option.isSome_iff_exists.mp (keyed.accounts.addressed number site _ phase user held rfl)
    | _ => cases asked
  | enterUsername v task =>
    cases task with
    | writeUsername key' username =>
      obtain ⟨address, known, -⟩ := keyed.naming number site v key' username phase held
      exact ⟨address, known⟩
    | submitUsername username => cases asked
  | load v task | submit v task | review v task => cases task <;> cases asked
  | logout v signOutThrows => cases asked

/-- A Google account is picked, and its users document is asked for. -/
theorem forms_of_tapGoogle (platform : Platform) (address : String) :
    ∃ after, Run (holderStep platform) Any (firstLaunch [], {})
      [.react 0 (.tapGoogle ⟨some address⟩) 0, .serve 0, .resume 0] after ∧
      Forms platform after address (sanitizedEmail address) := by
  have ran : ∃ after, execute (holderStep platform) (firstLaunch [], {})
      [.react 0 (.tapGoogle ⟨some address⟩) 0, .serve 0, .resume 0] = some after ∧
      after.1.pool 0 = some ⟨0, .signIn (.readGoogleAccount ⟨some address⟩), .issued⟩ :=
    ⟨_, rfl, rfl⟩
  obtain ⟨after, ran, held⟩ := ran
  exact ⟨after, .of_execute (fun _ _ _ => trivial) ran, 0, 0, _, _, held, rfl, rfl⟩

theorem splitsEvenly_of_accountsApart (apart : AccountsApart platform first second) :
    SplitsEvenly first ∧ SplitsEvenly second ∧ ¬ SameParts first second := by
  obtain ⟨path, path', different, formed⟩ := apart
  obtain ⟨after, ran, forms⟩ := forms_of_tapGoogle platform first
  obtain ⟨after', ran', forms'⟩ := forms_of_tapGoogle platform second
  have named := (formed _ after _ _ (initial_firstLaunch []) ran).1 forms
  have named' := (formed _ after' _ _ (initial_firstLaunch []) ran').2 forms'
  obtain ⟨even, rfl⟩ := usersDocument_eq_ok.mp named
  obtain ⟨even', rfl⟩ := usersDocument_eq_ok.mp named'
  exact ⟨even, even', fun same => different (usersPath_eq_iff.mpr same)⟩

/-- Two accounts are apart exactly when both addresses split evenly, into parts that differ in
more than letters that are alike. -/
theorem accountsApart_iff (platform : Platform) (first second : String) :
    AccountsApart platform first second ↔
      SplitsEvenly first ∧ SplitsEvenly second ∧ ¬ SameParts first second := by
  constructor
  · exact splitsEvenly_of_accountsApart
  · rintro ⟨even, even', different⟩
    refine ⟨usersPath first, usersPath second, fun same => different (usersPath_eq_iff.mp same), ?_⟩
    intro start after actions key initial ran
    have keyed := holdersKeyed_run initial ran
    constructor
    · intro forms
      rw [key_of_forms keyed forms]
      exact usersDocument_eq_ok.mpr ⟨even, rfl⟩
    · intro forms
      rw [key_of_forms keyed forms]
      exact usersDocument_eq_ok.mpr ⟨even', rfl⟩

/-- "a.b@x.com" and "a_b@x.com" have one users document. -/
theorem not_accountsApart : ¬ ∀ first second, first ≠ second → AccountsApart march first second := by
  intro claim
  have apart := claim "a.b@x.com" "a_b@x.com" (by decide)
  exact (splitsEvenly_of_accountsApart apart).2.2 (by decide)

end DailyTrivia

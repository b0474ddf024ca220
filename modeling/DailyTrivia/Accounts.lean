import DailyTrivia.CurrentUser
import DailyTrivia.DocumentWrites

/-!
Users documents and the accounts they are about. A users document only ever names the
account whose key it is stored under, and a Google account whose document is read or written
has an address to key it by. So whatever a sign-in reads of an account is that account's.
-/
namespace DailyTrivia

open Documents

/-- The account a sign-in works for, once it is known. -/
def SignInTask.account : SignInTask → Option String
  | .readUserAccount user | .writeUserAccount user => some (sanitizedEmail user.email)
  | .readGoogleAccount user | .readGoogleUsername user | .adoptGoogleUser user
  | .writeGoogleAccount user => some (googleKey user)
  | .readUsername email | .fetchUserStreak email | .readStreak email _ | .resetStreak email _ =>
    some (sanitizedEmail email)
  | .login _ | .register _ | .registerSignIn _ | .google _ | .restoreFirebase _
  | .restoreGoogle _ => none

/-- The Google account whose users document is read or written. -/
def SignInTask.googleUser : SignInTask → Option GIDGoogleUser
  | .readGoogleAccount user | .writeGoogleAccount user | .readGoogleUsername user
  | .adoptGoogleUser user => some user
  | _ => none

/-- The account a sign-in decodes a `User` of. -/
def SignInTask.decodes : SignInTask → Option String
  | .readUserAccount user => some (sanitizedEmail user.email)
  | .readGoogleAccount user => some (googleKey user)
  | _ => none

/-- A users document names its own account and holds no streak. -/
structure Keyed (key : String) (document : Doc) : Prop where
  email : ∀ email, document.string "email" = some email → email = key
  streak : document "streak" = none

structure Accounts (w : World) : Prop where
  documents : ∀ key document, get w.store.documents (userRef key) = some document →
    Keyed key document
  addressed : ∀ number site task phase user, w.pool number = some ⟨site, .signIn task, phase⟩ →
    task.googleUser = some user → user.email.isSome = true
  found : ∀ number site task key document,
    w.pool number = some ⟨site, .signIn task, .answered (.snapshot (some document))⟩ →
    task.decodes = some key → Keyed key document

variable {platform : Platform} {w w' : World} {action : Action} {key username : String}
variable {document : Doc} {user : User}

theorem keyed_userData (key : String) : Keyed key (userData key) where
  email email named := by
    cases named
    rfl
  streak := rfl

theorem keyed_named {old : Option Doc}
    (keyed : ∀ document, old = some document → Keyed key document) :
    Keyed key (mergeInto (usernameData username) old) := by
  cases old with
  | none => exact ⟨nofun, rfl⟩
  | some old =>
    obtain ⟨email, streak⟩ := keyed old rfl
    exact ⟨email, streak⟩

/-- What `User` decodes from a users document. -/
theorem decode_keyed (decoded : User.decode document = some user) (keyed : Keyed key document) :
    user.email = key ∧ user.streak = none ∧ user.username = document.string "username" := by
  simp only [User.decode, Option.bind_eq_bind, Option.bind_eq_some_iff, Option.pure_def,
    Option.some.injEq] at decoded
  obtain ⟨email, hasEmail, id, _, name, hasUsername, streak, hasStreak, rfl⟩ := decoded
  refine ⟨keyed.email email hasEmail, ?_, ?_⟩
  · simpa [Doc.optional, keyed.streak, eq_comm] using hasStreak
  · simp only [Doc.optional] at hasUsername
    split at hasUsername
    · cases hasUsername
      simp [Doc.string, *]
    · cases hasUsername
      simp [Doc.string, *]
    · obtain ⟨text, named, rfl⟩ := Option.map_eq_some_iff.mp hasUsername
      exact named.symm

/-- A Google user's session is keyed as its document. -/
theorem googleKey_of_address {user : GIDGoogleUser} (address : user.email.isSome = true) :
    googleKey user = (User.ofGoogleUser user).email := by
  obtain ⟨email, address⟩ := Option.isSome_iff_exists.mp address
  simp [googleKey, User.ofGoogleUser, address]

theorem documents_step (moved : Move platform w action w') (accounts : Accounts w)
    (stored : get w'.store.documents (userRef key) = some document) : Keyed key document := by
  rcases moved.store with same | ⟨number, site, task, reply, rfl, held, served⟩
  · exact accounts.documents key document (same ▸ stored)
  · rcases serve_user served key with same | wrote
    · exact accounts.documents key document (same ▸ stored)
    · have before := accounts.documents key
      generalize get w.store.documents (userRef key) = old at wrote before
      rw [stored] at wrote
      cases wrote with
      | created named =>
        subst named
        exact keyed_userData _
      | createdGoogle named =>
        subst named
        rw [googleKey_of_address (accounts.addressed number site _ _ _ held rfl)]
        exact keyed_userData _
      | named => exact keyed_named before

theorem accounts_step (moved : Move platform w action w') (accounts : Accounts w) :
    Accounts w' where
  documents key document := documents_step moved accounts
  addressed number site task phase user present google := by
    cases moved.pool present with
    | kept held _ => exact accounts.addressed _ _ _ _ _ held google
    | spawned reacted _ => cases begins_of_react reacted <;> cases google
    | served held _ => exact accounts.addressed _ _ _ _ _ held google
    | failed held => exact accounts.addressed _ _ _ _ _ held google
    | resumed held resumed =>
      cases continues_of_resume resumed with
      | google address =>
        cases google
        exact address
      | googleAccountFound _ | googleAccountMissing | googleUsername =>
        exact accounts.addressed _ _ _ _ _ held google
      | _ => cases google
  found number site task key document present decodes := by
    cases moved.pool present with
    | kept held _ => exact accounts.found _ _ _ _ _ held decodes
    | served held served =>
      cases task with
      | readUserAccount user | readGoogleAccount user =>
        cases decodes
        obtain ⟨_, found⟩ := Prod.mk.inj (Option.some.inj served)
        exact accounts.documents _ _ (Reply.snapshot.inj found)
      | _ => cases decodes

theorem accounts_of_initial (initial : Initial w) : Accounts w where
  documents key document stored := by
    rw [initial.noDocument (userRef key) (by simp [userRef])] at stored
    cases stored
  addressed number site task phase user present := by simp [initial.noJob] at present
  found number site task key document present := by simp [initial.noJob] at present

end DailyTrivia

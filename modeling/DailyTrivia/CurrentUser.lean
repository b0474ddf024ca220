import DailyTrivia.GameViews

/-!
Who is signed in. `Assigned` inverts what a task's segment does to `currentUser`: it is
replaced where a sign-in knows its account, a field of it is assigned in place wherever a
reply arrives, whoever it is by then, and a logout takes it away.
-/
namespace DailyTrivia

open Documents

/-- What becomes of `currentUser` when a task goes on with a reply. -/
inductive Assigned (d : Device) : Task → Reply → Option User → Prop where
  | kept {task : Task} {reply : Reply} : Assigned d task reply d.currentUser
  | login {email : String} {user : FirebaseUser} :
      Assigned d (.signIn (.login email)) (.firebaseUser user) (some (.ofFirebaseUser user))
  | registered {email : String} {user : FirebaseUser} :
      Assigned d (.signIn (.registerSignIn email)) (.firebaseUser user)
        (some (.ofFirebaseUser user))
  | accountFound {user : FirebaseUser} {document : Doc} {stored : User} :
      User.decode document = some stored →
      Assigned d (.signIn (.readUserAccount user)) (.snapshot (some document)) (some stored)
  | googleAccountFound {user : GIDGoogleUser} {document : Doc} {stored : User} :
      User.decode document = some stored →
      Assigned d (.signIn (.readGoogleAccount user)) (.snapshot (some document)) (some stored)
  | adopted {user : GIDGoogleUser} {reply : Reply} :
      Assigned d (.signIn (.adoptGoogleUser user)) reply (some (.ofGoogleUser user))
  | googleAccountWritten {user : GIDGoogleUser} :
      Assigned d (.signIn (.writeGoogleAccount user)) .written (some (.ofGoogleUser user))
  | restoredFirebase {user : FirebaseUser} {reply : Reply} :
      Assigned d (.signIn (.restoreFirebase user)) reply (some (.ofFirebaseUser user))
  | restoredGoogle {saved user : GIDGoogleUser} :
      Assigned d (.signIn (.restoreGoogle saved)) (.googleUser user) (some (.ofGoogleUser user))
  | googleUsername {user : GIDGoogleUser} {snapshot : Option Doc} {username : String} :
      (snapshot.bind fun document => document.string "username") = some username →
      Assigned d (.signIn (.readGoogleUsername user)) (.snapshot snapshot)
        (d.currentUser.map fun user => { user with username := some username })
  | username {email : String} {snapshot : Option Doc} {username : String} :
      (snapshot.bind fun document => document.string "username") = some username →
      Assigned d (.signIn (.readUsername email)) (.snapshot snapshot)
        (d.currentUser.map fun user => { user with username := some username })
  | streak {email username : String} {snapshot : Option Doc} {streak : Int} :
      (snapshot.bind fun document => document.int "streak") = some streak →
      Assigned d (.signIn (.readStreak email username)) (.snapshot snapshot)
        (d.currentUser.map fun user => { user with streak := some streak })
  | reset {email username : String} :
      Assigned d (.signIn (.resetStreak email username)) .written
        (d.currentUser.map fun user => { user with streak := some 0 })
  | named {v : ℕ} {key username : String} :
      Assigned d (.enterUsername v (.writeUsername key username)) .written
        (d.currentUser.map fun user => { user with username := some username })
  | counted {v : ℕ} {username : String} {streak : Int} :
      Assigned d (.submit v (.writeStreak username streak)) .written
        (d.currentUser.map fun user => { user with streak := some streak })
  | loggedOut {v : ℕ} {signOutThrows : Bool} {reply : Reply} :
      Assigned d (.logout v signOutThrows) reply none

variable {platform : Platform} {d d' : Device} {reply : Reply} {v : ℕ}

theorem signIn_assigned (task : SignInTask) :
    Assigned d (.signIn task) reply (task.resume reply d).1.currentUser := by
  cases task with
  | login email =>
    cases reply with
    | firebaseUser user => exact .login
    | _ => exact .kept
  | registerSignIn email =>
    cases reply with
    | firebaseUser user => exact .registered
    | _ => exact .kept
  | readUserAccount user =>
    cases reply with
    | snapshot snapshot =>
      cases snapshot with
      | none => exact .kept
      | some document =>
        simp only [SignInTask.resume]
        split
        · exact .accountFound ‹_›
        · exact .kept
    | _ => exact .kept
  | readGoogleAccount user =>
    cases reply with
    | snapshot snapshot =>
      cases snapshot with
      | none => exact .kept
      | some document =>
        simp only [SignInTask.resume]
        split
        · exact .googleAccountFound ‹_›
        · exact .kept
    | _ => exact .kept
  | readGoogleUsername user =>
    cases reply with
    | snapshot snapshot =>
      simp only [SignInTask.resume, Device.assignUsername]
      split
      · exact .googleUsername ‹_›
      · exact .kept
    | _ => exact .kept
  | readUsername email =>
    cases reply with
    | snapshot snapshot =>
      simp only [SignInTask.resume, Device.assignUsername]
      split
      · exact .username ‹_›
      · exact .kept
    | _ => exact .kept
  | adoptGoogleUser user => exact .adopted
  | writeGoogleAccount user =>
    cases reply with
    | written => exact .googleAccountWritten
    | _ => exact .kept
  | restoreFirebase user => exact .restoredFirebase
  | restoreGoogle saved =>
    cases reply with
    | googleUser user => exact .restoredGoogle
    | _ => exact .kept
  | readStreak email username =>
    cases reply with
    | snapshot snapshot =>
      simp only [SignInTask.resume]
      split
      · exact .streak ‹_›
      · split <;> exact .kept
    | _ => exact .kept
  | resetStreak email username =>
    cases reply with
    | written => exact .reset
    | _ => exact .kept
  | _ => cases reply <;> exact .kept

theorem assigned_of_resume {task : Task} {next : Option Task}
    (resumed : resume platform task reply d = (d', next)) :
    Assigned d task reply d'.currentUser := by
  obtain rfl : (resume platform task reply d).1 = d' := congrArg Prod.fst resumed
  cases viewed : task.view with
  | none =>
    cases task with
    | signIn task => exact signIn_assigned task
    | _ => cases viewed
  | some u =>
    have leaves := @leaves_of_resume platform u task viewed reply d
    generalize (resume platform task reply d).1 = left at leaves ⊢
    cases leaves with
    | refreshed =>
      rw [(refreshed_frame u d).currentUser]
      exact .kept
    | counted => exact .counted
    | named => exact .named
    | loggedOut _ => exact .loggedOut
    | _ => exact .kept

/-- An event begins a task and assigns no account. -/
theorem react_currentUser {event : Event} {task : Option Task}
    (reacted : react platform event d = some (d', task)) : d'.currentUser = d.currentUser := by
  cases reacts_of_react reacted <;> rfl

end DailyTrivia

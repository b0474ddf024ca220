import DailyTrivia.DocumentWrites
import DailyTrivia.TaskFlow

/-!
What the app writes, the app decodes. The account creations write every field `User`
requires, and the response and review documents are written whole with every field of
theirs. `submitUsername` writes one field and relies on a document being there to merge
into: `AccountExists` says it is, and then nothing the app has written fails to decode.
-/
namespace DailyTrivia

open Documents Runs

/-- Every document the app has written decodes as its model. -/
structure Decodes (w : World) : Prop where
  users : ∀ key document, get w.store.documents (userRef key) = some document →
    (User.decode document).isSome = true
  responses : ∀ username day document,
    get w.store.documents (responseRef username day) = some document →
    (SubmittedAnswer.decode document).isSome = true
  reviews : ∀ username document,
    get w.store.documents (manualReviewRef username) = some document →
    (ManualReview.decode document).isSome = true

/-- The task throws a decoding error when it goes on with the reply. -/
inductive ThrowsDecoding (platform : Platform) (d : Device) : Task → Reply → Prop where
  | userAccount {user : FirebaseUser} {document : Doc} : User.decode document = none →
      ThrowsDecoding platform d (.signIn (.readUserAccount user)) (.snapshot (some document))
  | googleAccount {user : GIDGoogleUser} {document : Doc} : User.decode document = none →
      ThrowsDecoding platform d (.signIn (.readGoogleAccount user)) (.snapshot (some document))
  | response {v : ℕ} {username today : String} {snapshot : Option Doc} :
      d.checkResponseExists v today snapshot = .error .decoding →
      ThrowsDecoding platform d (.load v (.readResponse username today)) (.snapshot snapshot)
  | reviews {v : ℕ} {form : ReviewForm} {userNote : String} {found : List Doc} :
      reviewedOn (platform.dateFormattedForDb d.day) found = .error .decoding →
      ThrowsDecoding platform d (.review v (.readReviews form userNote)) (.documents found)

/-- Every document the app writes can be read back by the app. -/
structure ReadBack (platform : Platform) (allowed : World → Action → Prop) : Prop where
  decodes : ∀ (start after : World) (actions : List Action), Initial start →
    Run (step platform) allowed start actions after → Decodes after
  neverThrows : ∀ (start after : World) (actions : List Action) (number site : ℕ) (task : Task)
    (reply : Reply), Initial start → Run (step platform) allowed start actions after →
    after.pool number = some ⟨site, task, .answered reply⟩ →
    ¬ ThrowsDecoding platform (after.sites site) task reply

/-- A username is only written into a users document that is there. -/
def AccountExists (w : World) (action : Action) : Prop :=
  ∀ key username, WritesUsername w action key username →
    (get w.store.documents (userRef key)).isSome = true

/-- A document was read that does not decode as what the task reads. -/
inductive Unreadable : Task → Reply → Prop where
  | userAccount {user : FirebaseUser} {document : Doc} : User.decode document = none →
      Unreadable (.signIn (.readUserAccount user)) (.snapshot (some document))
  | googleAccount {user : GIDGoogleUser} {document : Doc} : User.decode document = none →
      Unreadable (.signIn (.readGoogleAccount user)) (.snapshot (some document))
  | response {v : ℕ} {username today : String} {document : Doc} :
      SubmittedAnswer.decode document = none →
      Unreadable (.load v (.readResponse username today)) (.snapshot (some document))
  | review {v : ℕ} {form : ReviewForm} {userNote : String} {document : Doc} {found : List Doc} :
      document ∈ found → ManualReview.decode document = none →
      Unreadable (.review v (.readReviews form userNote)) (.documents found)

/-- Whatever is stored or has been read decodes. -/
structure Sound (w : World) : Prop where
  stored : Decodes w
  read : ∀ number site task reply, w.pool number = some ⟨site, task, .answered reply⟩ →
    ¬ Unreadable task reply

variable {platform : Platform} {d : Device} {w w' : World} {action : Action}
variable {task : Task} {reply : Reply} {backend after : Backend} {username : String}

/-! ## The documents -/

/-- `merge: true` keeps the fields that `User` requires. -/
theorem decode_named {old : Doc} {user : User} (decoded : User.decode old = some user) :
    User.decode (mergeInto (usernameData username) (some old)) =
      some { user with username := some username } := by
  have email : mergeInto (usernameData username) (some old) "email" = old "email" :=
    mergeInto_of_none rfl
  have id : mergeInto (usernameData username) (some old) "id" = old "id" := mergeInto_of_none rfl
  have streak : mergeInto (usernameData username) (some old) "streak" = old "streak" :=
    mergeInto_of_none rfl
  have named : mergeInto (usernameData username) (some old) "username" =
    some (.string username) := mergeInto_of_some rfl
  simp only [User.decode, Option.bind_eq_bind, Option.bind_eq_some_iff, Option.pure_def,
    Option.some.injEq, Doc.string, Doc.optional, Doc.decodeInt, Doc.int, email, id, streak, named] at decoded ⊢
  obtain ⟨email, hasEmail, id, hasId, _, _, streak, hasStreak, rfl⟩ := decoded
  exact ⟨email, hasEmail, id, hasId, some username, rfl, streak, hasStreak, rfl⟩

theorem user_decodes (served : serve platform backend (call platform task) = some (after, reply))
    {key : String}
    (merged : ∀ view username, task = .enterUsername view (.writeUsername key username) →
      (get backend.documents (userRef key)).isSome = true)
    (before : ∀ document, get backend.documents (userRef key) = some document →
      (User.decode document).isSome = true)
    {document : Doc} (stored : get after.documents (userRef key) = some document) :
    (User.decode document).isSome = true := by
  rcases serve_user served key with same | wrote
  · exact before document (same ▸ stored)
  · generalize get backend.documents (userRef key) = old at wrote before merged
    rw [stored] at wrote
    cases wrote with
    | created _ => rfl
    | createdGoogle _ => rfl
    | named =>
      obtain ⟨old, rfl⟩ := Option.isSome_iff_exists.mp (merged _ _ rfl)
      obtain ⟨user, decoded⟩ := Option.isSome_iff_exists.mp (before old rfl)
      rw [decode_named decoded]
      rfl

theorem decodes_step (moved : Move platform w action w') (there : AccountExists w action)
    (decodes : Decodes w) : Decodes w' := by
  rcases moved.store with same | ⟨number, site, task, reply, rfl, held, served⟩
  · constructor
    · simpa only [same] using decodes.users
    · simpa only [same] using decodes.responses
    · simpa only [same] using decodes.reviews
  · constructor
    · intro key document stored
      refine user_decodes served (fun view username writes => ?_) (decodes.users key) stored
      subst writes
      exact there key username ⟨number, site, view, rfl, held⟩
    · intro username day document stored
      rcases serve_response served username day with
        same | ⟨view, question, answerText, rfl, wrote⟩
      · exact decodes.responses username day document (same ▸ stored)
      · rw [wrote] at stored
        cases stored
        rfl
    · intro username document stored
      rcases serve_review served username with
        same | ⟨view, form, userNote, today, rfl, _, wrote⟩
      · exact decodes.reviews username document (same ▸ stored)
      · rw [wrote] at stored
        cases stored
        rfl

/-! ## The replies -/

/-- What a call returns decodes, since every stored document does. -/
theorem served_readable (decodes : Decodes w)
    (served : serve platform w.store (call platform task) = some (after, reply)) :
    ¬ Unreadable task reply := by
  rintro (undecoded | undecoded | undecoded | ⟨member, undecoded⟩) <;>
    obtain ⟨_, found⟩ := Prod.mk.inj (Option.some.inj served)
  · simpa [undecoded] using decodes.users _ _ (Reply.snapshot.inj found)
  · simpa [undecoded] using decodes.users _ _ (Reply.snapshot.inj found)
  · simpa [undecoded] using decodes.responses _ _ _ (Reply.snapshot.inj found)
  · cases found
    obtain ⟨⟨id, stored⟩, _⟩ := mem_whereField.mp member
    simpa [undecoded] using decodes.reviews id _ stored

theorem sound_step (moved : Move platform w action w') (there : AccountExists w action)
    (sound : Sound w) : Sound w' where
  stored := decodes_step moved there sound.stored
  read number site task reply present := by
    cases moved.pool present with
    | kept held => exact sound.read number site task reply held
    | served held served => exact served_readable sound.stored served
    | failed held => nofun

theorem sound_of_initial {start : World} (initial : Initial start) : Sound start where
  stored := by
    constructor
    · intro key document stored
      rw [initial.noDocument (userRef key) (by simp [userRef])] at stored
      cases stored
    · intro username day document stored
      rw [initial.noDocument (responseRef username day) (by simp [responseRef])] at stored
      cases stored
    · intro username document stored
      rw [initial.noDocument (manualReviewRef username) (by simp [manualReviewRef])] at stored
      cases stored
  read number site task reply present := by simp [initial.noJob] at present

/-- The loop throws only at a document that does not decode. -/
theorem reviewedOn_error {today : String} {found : List Doc} {thrown : AppError}
    (error : reviewedOn today found = .error thrown) :
    ∃ document ∈ found, ManualReview.decode document = none := by
  induction found with
  | nil => cases error
  | cons document rest ih =>
    unfold reviewedOn at error
    split at error
    · exact ⟨document, List.mem_cons_self, ‹_›⟩
    · split at error
      · cases error
      · obtain ⟨undecoded, member, fails⟩ := ih error
        exact ⟨undecoded, List.mem_cons_of_mem _ member, fails⟩

theorem unreadable_of_throws (throws : ThrowsDecoding platform d task reply) :
    Unreadable task reply := by
  cases throws with
  | userAccount undecoded => exact .userAccount undecoded
  | googleAccount undecoded => exact .googleAccount undecoded
  | @response v username today snapshot error =>
    cases snapshot with
    | none => cases error
    | some document =>
      simp only [Device.checkResponseExists] at error
      split at error
      · split at error
        · cases error
        · exact .response ‹_›
      · cases error
  | reviews error =>
    obtain ⟨document, member, undecoded⟩ := reviewedOn_error error
    exact .review member undecoded

theorem sound_run {start after : World} {actions : List Action} (initial : Initial start)
    (run : Run (step platform) AccountExists start actions after) : Sound after :=
  run.invariant Sound (sound_of_initial initial)
    fun _ _ _ sound there moved => sound_step (Async.move_of_step moved) there sound

/-- Everything decodes as long as usernames are only merged into accounts that are there. -/
theorem readBack_of_accountExists (platform : Platform) : ReadBack platform AccountExists where
  decodes _ _ _ initial run := (sound_run initial run).stored
  neverThrows _ _ _ number site task reply initial run present throws :=
    (sound_run initial run).read number site task reply present (unreadable_of_throws throws)

/-- Ann registers, but the read of her users document fails and nothing is created. She is
signed in all the same, and her username becomes the only field of the document. -/
def namedWithoutAccount : List Action :=
  ([.react 0 (.tapRegister "ann@example.com" "secret") 0] : List Action) ++ advance 0 ++
  advance 0 ++
  ([.fail 0, .resume 0, .react 0 .currentUserChanges 1,
    .react 0 (.gameViewAppears 0) 1] : List Action) ++ advance 1 ++ advance 1 ++ advance 1 ++
  advance 1 ++
  ([.react 0 (.tapSubmitUsername 0 "annie") 1] : List Action) ++ advance 1 ++
  ([.serve 1] : List Action)

theorem namedWithoutAccount_undecoded :
    ((execute (step march) (firstLaunch []) namedWithoutAccount).bind fun after =>
      get after.store.documents (userRef "ann_example_com")).map User.decode = some none := by
  decide +kernel

/-- A username can be stored where `User` cannot be read back. -/
theorem not_readBack : ¬ ReadBack march Any := by
  intro claim
  obtain ⟨document, found, undecoded⟩ := Option.map_eq_some_iff.mp namedWithoutAccount_undecoded
  obtain ⟨after, ran, stored⟩ := Option.bind_eq_some_iff.mp found
  have decodes := (claim.decodes (firstLaunch []) after namedWithoutAccount
    (initial_firstLaunch []) (.of_execute (fun _ _ _ => trivial) ran)).users _ document stored
  rw [undecoded] at decodes
  cases decodes

end DailyTrivia

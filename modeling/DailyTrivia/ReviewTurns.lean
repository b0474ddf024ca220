import DailyTrivia.Clock
import DailyTrivia.Reviews

/-!
One review request per username and day. A call looks the day up, checks that no request of it
is stored, reads the clock again and writes, and other calls, other devices and midnight may
come in between. `ReviewsInTurn` keeps them out, and keeps a device whose clock is behind from
writing over a later request. Then the document of a username holds its latest request, every
call that passes its check goes on to a later day, and no day comes twice.
-/
namespace DailyTrivia

open Documents Runs

/-- A request of the day is stored for a username. -/
def FiledOn (documents : Store CollectionRef) (username today : String) : Prop :=
  ∃ id document, get documents ⟨.manualReviews, id⟩ = some document ∧
    document.string "username" = some username ∧ document.string "date" = some today

/-- At most one request per username and day is accepted, and a call returns false exactly when
a request of that day is stored. -/
structure OneReviewADay (platform : Platform) (allowed : World → Action → Prop) : Prop where
  /-- No two calls that returned true have stored a request of one day. -/
  once : ∀ (start : World) (after : World × List ManualReview) (actions : List Action),
    Initial start →
    Run (reviewStep platform) (fun s => allowed s.1) (start, []) actions after →
    (after.2.map fun review => (review.username, review.date)).Nodup
  /-- A call that returns false has found a request of the day. -/
  refused : ∀ (start : World) (before : World × List ManualReview) (actions : List Action)
    (number site v : ℕ) (form : ReviewForm) (userNote : String) (found : List Doc),
    Initial start →
    Run (reviewStep platform) (fun s => allowed s.1) (start, []) actions before →
    before.1.pool number =
      some ⟨site, .review v (.readReviews form userNote), .answered (.documents found)⟩ →
    reviewedOn (platform.dateFormattedForDb (before.1.sites site).day) found = .ok true →
    FiledOn before.1.store.documents form.username
      (platform.dateFormattedForDb (before.1.sites site).day)
  /-- A call that goes on to store a request is the first of the day. -/
  unfiled : ∀ (start : World) (before : World × List ManualReview) (actions : List Action)
    (number site v : ℕ) (form : ReviewForm) (userNote today : String), Initial start →
    Run (reviewStep platform) (fun s => allowed s.1) (start, []) actions before →
    before.1.pool number =
      some ⟨site, .review v (.writeReview form userNote today), .issued⟩ →
    ¬ FiledOn before.1.store.documents form.username today

/-- The username whose requests a call has looked up, until its own is written. -/
def checkedFor : Task → Async.Phase Reply → Option String
  | .review _ (.readReviews form _), .answered _ => some form.username
  | .review _ (.composeReview form _), _ => some form.username
  | .review _ (.writeReview form _ _), .issued => some form.username
  | _, _ => none

/-- Calls for one username take turns, on one day each and on clocks that agree. -/
structure ReviewsInTurn (platform : Platform) (w : World) (action : Action) : Prop where
  /-- A request is written when no other call is between its query and its write. -/
  turn : ∀ number site v form userNote today, action = .serve number →
    w.pool number = some ⟨site, .review v (.writeReview form userNote today), .issued⟩ →
    ∀ other site' task phase, other ≠ number → w.pool other = some ⟨site', task, phase⟩ →
      checkedFor task phase ≠ some form.username
  /-- It is not midnight between the check of a call and the date of its request. -/
  sameDay : ∀ site job number v form userNote phase, action = .react site .midnight job →
    w.pool number ≠ some ⟨site, .review v (.composeReview form userNote), phase⟩
  /-- No stored request is of a later day than the one that is written. -/
  clocks : ∀ number site v form userNote day document stored, action = .serve number →
    w.pool number = some ⟨site, .review v (.writeReview form userNote
      (platform.dateFormattedForDb day)), .issued⟩ →
    get w.store.documents (manualReviewRef form.username) = some document →
    document.string "date" = some (platform.dateFormattedForDb stored) → stored ≤ day

/-- The stored request of a username is of this day or a later one. -/
def FiledSince (platform : Platform) (w : World) (username : String) (day : ℕ) : Prop :=
  ∃ document stored, get w.store.documents (manualReviewRef username) = some document ∧
    document.string "date" = some (platform.dateFormattedForDb stored) ∧ day ≤ stored

/-- No request of the day is stored for a username. -/
def Unfiled (w : World) (username today : String) : Prop :=
  ∀ document, get w.store.documents (manualReviewRef username) = some document →
    document.string "date" ≠ some today

/-- A call has written its request and has still to return. -/
def Returning (w : World) (number : ℕ) (username today : String) : Prop :=
  ∃ site v form userNote, form.username = username ∧ w.pool number =
    some ⟨site, .review v (.writeReview form userNote today), .answered .written⟩

/-- What holds while calls take turns. -/
structure TurnsTaken (platform : Platform) (w : World) (accepted : List ManualReview) : Prop where
  /-- A review document is the request of its username. -/
  filed : ∀ username document, get w.store.documents (manualReviewRef username) = some document →
    ∃ form userNote day, form.username = username ∧
      document = reviewData form userNote (platform.dateFormattedForDb day)
  /-- What a query has found is what is stored. -/
  found : ∀ number site v form userNote found, w.pool number =
      some ⟨site, .review v (.readReviews form userNote), .answered (.documents found)⟩ →
    ∀ document, document ∈ found ↔
      get w.store.documents (manualReviewRef form.username) = some document
  /-- A call that has passed its check writes on a day without a request. -/
  compared : ∀ number site v form userNote phase, w.pool number =
      some ⟨site, .review v (.composeReview form userNote), phase⟩ →
    Unfiled w form.username (platform.dateFormattedForDb (w.sites site).day)
  composed : ∀ number site v form userNote today, w.pool number =
      some ⟨site, .review v (.writeReview form userNote today), .issued⟩ →
    (∃ day, today = platform.dateFormattedForDb day) ∧ Unfiled w form.username today
  returning : ∀ number username today, Returning w number username today →
    (username, today) ∉ accepted.map (fun review => (review.username, review.date)) ∧
    ∃ day, today = platform.dateFormattedForDb day ∧ FiledSince platform w username day
  /-- No two calls return from requests of one day. -/
  apart : ∀ number other username today, Returning w number username today →
    Returning w other username today → number = other
  logged : ∀ review ∈ accepted, ∃ day, review.date = platform.dateFormattedForDb day ∧
    FiledSince platform w review.username day
  once : (accepted.map fun review => (review.username, review.date)).Nodup

variable {platform : Platform} {w w' : World} {action : Action} {accepted : List ManualReview}
variable {found : List Doc} {username today : String} {day : ℕ}

theorem date_of_decode {document : Doc} {review : ManualReview}
    (decoded : ManualReview.decode document = some review) :
    document.string "date" = some review.date := by
  simp only [ManualReview.decode, Option.bind_eq_bind, Option.bind_eq_some_iff] at decoded
  obtain ⟨_, _, date, dated, _, _, _, _, _, _, _, _, _, _, _, _, rest⟩ := decoded
  cases rest
  exact dated

/-- The loop stops at a review of the day. -/
theorem reviewedOn_true (reviewed : reviewedOn today found = .ok true) :
    ∃ document ∈ found, document.string "date" = some today := by
  induction found with
  | nil => cases reviewed
  | cons document rest ih =>
    unfold reviewedOn at reviewed
    split at reviewed
    · cases reviewed
    · split at reviewed
      · rename_i review decoded same
        exact ⟨document, List.mem_cons_self, same ▸ date_of_decode decoded⟩
      · obtain ⟨later, member, dated⟩ := ih reviewed
        exact ⟨later, List.mem_cons_of_mem _ member, dated⟩

/-- A loop that finds no review of the day has looked at all of them. -/
theorem reviewedOn_false (unreviewed : reviewedOn today found = .ok false) :
    ∀ document ∈ found, document.string "date" ≠ some today := by
  induction found with
  | nil => simp
  | cons document rest ih =>
    unfold reviewedOn at unreviewed
    split at unreviewed
    · cases unreviewed
    · split at unreviewed
      · cases unreviewed
      · rename_i review decoded other
        intro later member
        rcases List.mem_cons.mp member with rfl | member
        · rw [date_of_decode decoded]
          exact fun same => other (Option.some.inj same)
        · exact ih unreviewed later member

theorem store_of_resume {number : ℕ} (moved : Move platform w (.resume number) w') :
    w'.store = w.store := by
  cases moved
  rfl

/-- While a call is between its query and its write, the request of its username stays. -/
theorem checked_stays {number site : ℕ} {task : Task} {phase : Async.Phase Reply}
    (moved : Move platform w action w') (turns : ReviewsInTurn platform w action)
    (held : w.pool number = some ⟨site, task, phase⟩) (unmoved : action.moved ≠ some number)
    (checked : checkedFor task phase = some username) :
    get w'.store.documents (manualReviewRef username) =
      get w.store.documents (manualReviewRef username) := by
  rcases review_step moved username with
    same | ⟨writer, site', v, form, userNote, today, rfl, writes, rfl, -⟩
  · exact same
  · have other : number ≠ writer := fun same => unmoved (by rw [same]; rfl)
    exact absurd checked (turns.turn writer site' v form userNote today rfl writes number site task
      phase other held)

/-- The request of a username only gives way to one of a later day. -/
theorem filedSince_stays (moved : Move platform w action w')
    (turns : ReviewsInTurn platform w action) (taken : TurnsTaken platform w accepted)
    (filed : FiledSince platform w username day) : FiledSince platform w' username day := by
  obtain ⟨document, stored, kept, dated, since⟩ := filed
  rcases review_step moved username with
    same | ⟨writer, site, v, form, userNote, today, rfl, writes, rfl, written⟩
  · exact ⟨document, stored, same.trans kept, dated, since⟩
  · obtain ⟨⟨later, rfl⟩, -⟩ := taken.composed writer site v form userNote today writes
    have order := turns.clocks writer site v form userNote later document stored rfl writes kept dated
    exact ⟨_, later, written, rfl, by omega⟩

/-- A request that is written now is of a later day than the stored one. -/
theorem not_filedSince {number site v : ℕ} {form : ReviewForm} {userNote : String}
    (turns : ReviewsInTurn platform w (.serve number)) (taken : TurnsTaken platform w accepted)
    (writes : w.pool number = some ⟨site, .review v (.writeReview form userNote
      (platform.dateFormattedForDb day)), .issued⟩) :
    ¬ FiledSince platform w form.username day := by
  rintro ⟨document, stored, kept, dated, since⟩
  have order := turns.clocks number site v form userNote day document stored rfl writes kept dated
  have today : stored = day := by omega
  subst today
  exact (taken.composed number site v form userNote _ writes).2 document kept dated

theorem returning_step {number : ℕ} (moved : Move platform w action w')
    (returning : Returning w' number username today) :
    (Returning w number username today ∧ action.moved ≠ some number) ∨
    ∃ site v form userNote, form.username = username ∧ action = .serve number ∧
      w.pool number = some ⟨site, .review v (.writeReview form userNote today), .issued⟩ ∧
      get w'.store.documents (manualReviewRef username) =
        some (reviewData form userNote today) := by
  obtain ⟨site, v, form, userNote, rfl, held⟩ := returning
  rcases writtenReview_step moved held with ⟨before, unmoved⟩ | ⟨rfl, before, stored⟩
  · exact .inl ⟨⟨site, v, form, userNote, rfl, before⟩, unmoved⟩
  · exact .inr ⟨site, v, form, userNote, rfl, rfl, before, stored⟩

section Step

variable (moved : Move platform w action w') (turns : ReviewsInTurn platform w action)
variable (taken : TurnsTaken platform w accepted)

include moved taken

theorem filed_step {document : Doc}
    (stored : get w'.store.documents (manualReviewRef username) = some document) :
    ∃ form userNote day, form.username = username ∧
      document = reviewData form userNote (platform.dateFormattedForDb day) := by
  rcases review_step moved username with
    same | ⟨number, site, v, form, userNote, today, rfl, writes, rfl, written⟩
  · exact taken.filed username document (same.symm.trans stored)
  · obtain ⟨⟨day, rfl⟩, -⟩ := taken.composed number site v form userNote today writes
    exact ⟨form, userNote, day, rfl, Option.some.inj (stored.symm.trans written)⟩

include turns

theorem found_step {number site v : ℕ} {form : ReviewForm} {userNote : String}
    (held : w'.pool number =
      some ⟨site, .review v (.readReviews form userNote), .answered (.documents found)⟩)
    (document : Doc) : document ∈ found ↔
      get w'.store.documents (manualReviewRef form.username) = some document := by
  cases moved.pool held with
  | kept before unmoved =>
    rw [checked_stays moved turns before unmoved rfl]
    exact taken.found number site v form userNote found before document
  | served before served =>
    obtain ⟨same, listed⟩ := Prod.mk.inj (Option.some.inj served)
    obtain rfl := Reply.documents.inj listed
    rw [← same, mem_whereField]
    constructor
    · rintro ⟨⟨id, stored⟩, named⟩
      obtain ⟨form', userNote', day, rfl, rfl⟩ := taken.filed id document stored
      have owner : form'.username = form.username := by
        simpa [reviewData, fields] using named
      rw [← owner]
      exact stored
    · intro stored
      obtain ⟨form', userNote', day, same, rfl⟩ := taken.filed form.username document stored
      exact ⟨⟨form.username, stored⟩, by rw [← same]; rfl⟩

theorem compared_step {number site v : ℕ} {form : ReviewForm} {userNote : String}
    {phase : Async.Phase Reply}
    (held : w'.pool number = some ⟨site, .review v (.composeReview form userNote), phase⟩) :
    Unfiled w' form.username (platform.dateFormattedForDb (w'.sites site).day) := by
  cases moved.pool held with
  | kept before unmoved =>
    have day := day_stays moved fun job midnight =>
      turns.sameDay site job number v form userNote phase midnight before
    rw [day, Unfiled, checked_stays moved turns before unmoved rfl]
    exact taken.compared number site v form userNote phase before
  | spawned reacted _ => cases begins_of_react reacted
  | served before served =>
    obtain ⟨store, -⟩ := Prod.mk.inj (Option.some.inj served)
    rw [day_stays moved nofun, Unfiled, ← store]
    exact taken.compared number site v form userNote .issued before
  | failed before =>
    have same : w'.store = w.store ∧ w'.sites = w.sites := by
      cases moved
      exact ⟨rfl, rfl⟩
    rw [Unfiled, same.1, same.2]
    exact taken.compared number site v form userNote .issued before
  | resumed before resumed =>
    cases continues_of_resume resumed with
    | reviewsRead unreviewed =>
      rw [day_stays moved nofun, Unfiled, store_of_resume moved]
      intro document stored
      have listed := (taken.found number site v form userNote _ before document).mpr stored
      exact reviewedOn_false unreviewed document listed

theorem composed_step {number site v : ℕ} {form : ReviewForm} {userNote : String}
    (held : w'.pool number = some ⟨site, .review v (.writeReview form userNote today), .issued⟩) :
    (∃ day, today = platform.dateFormattedForDb day) ∧ Unfiled w' form.username today := by
  cases moved.pool held with
  | kept before unmoved =>
    rw [Unfiled, checked_stays moved turns before unmoved rfl]
    exact taken.composed number site v form userNote today before
  | spawned reacted _ => cases begins_of_react reacted
  | resumed before resumed =>
    cases continues_of_resume resumed with
    | reviewComposed =>
      rw [Unfiled, store_of_resume moved]
      exact ⟨⟨_, rfl⟩, taken.compared number site v form userNote _ before⟩

theorem returns_step {number : ℕ} (returning : Returning w' number username today) :
    (username, today) ∉ (observeReviews accepted w action).map (fun review =>
      (review.username, review.date)) ∧
    ∃ day, today = platform.dateFormattedForDb day ∧ FiledSince platform w' username day := by
  rcases returning_step moved returning with
    ⟨before, unmoved⟩ | ⟨site, v, form, userNote, rfl, rfl, writes, written⟩
  · obtain ⟨fresh, day, rfl, since⟩ := taken.returning number username today before
    refine ⟨?_, day, rfl, filedSince_stays moved turns taken since⟩
    rcases observeReviews_cases accepted w action with
      same | ⟨other, site, v, form, userNote, today, rfl, held, grown⟩
    · rwa [same]
    · -- two calls do not return from requests of one day
      rw [grown, List.map_append, List.mem_append]
      rintro (logged | now)
      · exact fresh logged
      · obtain ⟨rfl, same⟩ := Prod.mk.inj (List.mem_singleton.mp now)
        have both : Returning w other form.username (platform.dateFormattedForDb day) :=
          ⟨site, v, form, userNote, rfl, held.trans (by rw [same]; rfl)⟩
        have one := taken.apart number other form.username _ before both
        exact unmoved (by rw [one]; rfl)
  · obtain ⟨⟨day, rfl⟩, -⟩ := taken.composed number site v form userNote today writes
    refine ⟨fun logged => ?_, day, rfl, _, day, written, rfl, Nat.le_refl day⟩
    obtain ⟨review, member, same⟩ := List.mem_map.mp logged
    obtain ⟨owner, dated⟩ := Prod.mk.inj same
    obtain ⟨earlier, dated', since⟩ := taken.logged review member
    have today : earlier = day :=
      platform.dateFormattedForDb_injective (dated'.symm.trans dated)
    rw [owner, today] at since
    exact not_filedSince turns taken writes since

theorem apart_step {number other : ℕ} (returning : Returning w' number username today)
    (returning' : Returning w' other username today) : number = other := by
  rcases returning_step moved returning with
    ⟨before, unmoved⟩ | ⟨site, v, form, userNote, rfl, rfl, writes, -⟩
  · rcases returning_step moved returning' with
      ⟨before', -⟩ | ⟨site, v, form, userNote, rfl, rfl, writes, -⟩
    · exact taken.apart number other username today before before'
    · obtain ⟨-, day, rfl, since⟩ := taken.returning number _ today before
      exact absurd since (not_filedSince turns taken writes)
  · rcases returning_step moved returning' with ⟨before', -⟩ | ⟨_, _, _, _, -, serves, -⟩
    · obtain ⟨-, day, rfl, since⟩ := taken.returning other _ today before'
      exact absurd since (not_filedSince turns taken writes)
    · exact Async.Action.serve.inj serves

theorem turnsTaken_step : TurnsTaken platform w' (observeReviews accepted w action) where
  filed _ _ stored := filed_step moved taken stored
  found _ _ _ _ _ _ held := found_step moved turns taken held
  compared _ _ _ _ _ _ held := compared_step moved turns taken held
  composed _ _ _ _ _ _ held := composed_step moved turns taken held
  returning _ _ _ returning := returns_step moved turns taken returning
  apart _ _ _ _ returning returning' := apart_step moved turns taken returning returning'
  logged := by
    intro review member
    have before : ∃ day, review.date = platform.dateFormattedForDb day ∧
        FiledSince platform w review.username day := by
      rcases observeReviews_cases accepted w action with
        same | ⟨number, site, v, form, userNote, today, rfl, held, grown⟩
      · rw [same] at member
        exact taken.logged review member
      · rw [grown] at member
        rcases List.mem_append.mp member with earlier | now
        · exact taken.logged review earlier
        · obtain rfl := List.mem_singleton.mp now
          exact (taken.returning number _ _ ⟨site, v, form, userNote, rfl, held⟩).2
    obtain ⟨day, dated, since⟩ := before
    exact ⟨day, dated, filedSince_stays moved turns taken since⟩
  once := by
    rcases observeReviews_cases accepted w action with
      same | ⟨number, site, v, form, userNote, today, rfl, held, grown⟩
    · rw [same]
      exact taken.once
    · have fresh := (taken.returning number _ _ ⟨site, v, form, userNote, rfl, held⟩).1
      rw [grown, List.map_append]
      exact List.nodup_append.mpr ⟨taken.once, List.nodup_singleton _, by
        rintro slot logged _ now rfl
        rw [List.mem_singleton.mp now] at logged
        exact fresh logged⟩

end Step

theorem turnsTaken_of_initial (initial : Initial w) : TurnsTaken platform w [] := by
  have noReview : ∀ username, get w.store.documents (manualReviewRef username) = none :=
    fun username => initial.noDocument _ (by simp [manualReviewRef])
  have noJob := initial.noJob
  constructor
  case filed => simp [noReview]
  case found => simp [noJob]
  case compared => simp [noJob]
  case composed => simp [noJob]
  case returning => simp [Returning, noJob]
  case apart => simp [Returning, noJob]
  case logged => simp
  case once => simp

theorem turnsTaken_run {start : World} {after : World × List ManualReview} {actions : List Action}
    (initial : Initial start) (run : Run (reviewStep platform)
      (fun s => ReviewsInTurn platform s.1) (start, []) actions after) :
    TurnsTaken platform after.1 after.2 := by
  refine run.invariant (fun s => TurnsTaken platform s.1 s.2) (turnsTaken_of_initial initial) ?_
  rintro before action after taken turns moved
  obtain ⟨moved, recorded⟩ := observed_eq_some.mp moved
  rw [← recorded]
  exact turnsTaken_step (Async.move_of_step moved) turns taken

/-- Annie taps the button twice, and both calls query before either writes. -/
def tappedTwice : List Action :=
  signUp 0 "ann@example.com" "annie" ++
  ([.react 0 (.tapSubmitAnswer 0 "London") 0] : List Action) ++ advance 0 ++ advance 0 ++
  advance 0 ++ advance 0 ++
  ([.react 0 (.tapSubmitReview 0 "once") 0,
    .react 0 (.tapSubmitReview 0 "twice") 1] : List Action) ++ advance 0 ++ advance 1 ++
  advance 0 ++ advance 1 ++ advance 0 ++ advance 1 ++ advance 0 ++ advance 1

theorem tappedTwice_accepted :
    (execute (reviewStep march) (firstLaunch [capital], []) tappedTwice).map
      (fun s => s.2.map fun review => (review.username, review.date)) =
    some [("annie", "20250301"), ("annie", "20250301")] := by
  decide +kernel

end DailyTrivia

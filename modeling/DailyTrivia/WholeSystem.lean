import DailyTrivia.CloudRequests
import DailyTrivia.LeaderboardView
import DailyTrivia.StreakRecords

/-!
The whole system: the app, the requests to the cloud function and the leaderboard screens, over one
store and in any order.

The app neither reads nor writes `responses`, and that is the one collection the cloud function
writes to; the screens write nothing. So each of them does in a run of the whole system what it does
alone, and what is proved about runs of the app is true of the app here.
-/
namespace DailyTrivia

open Documents Programs Runs

abbrev AppOwn := Tasks Device Task Reply

abbrev CloudOwn := Tasks (Option HttpRequest) RequestTask CloudReply

abbrev ScreenOwn := Tasks (Option LeaderboardView) LeaderboardTask LeaderboardReply

abbrev SystemState := Backend × (AppOwn × CloudOwn) × ScreenOwn

abbrev SystemAction := (Action ⊕ Async.Action CloudEvent) ⊕ Async.Action LeaderboardEvent

section System

variable (platform : Platform) (cloud : Cloud) (toDocument : JsFields → Doc) (rejection : JsThrown)
variable (order : IterationOrder) (listing : Listing)

/-- The app and the cloud function: what writes to the store. -/
abbrev writers : Program Backend (AppOwn × CloudOwn) (Action ⊕ Async.Action CloudEvent) :=
  withRequests cloud toDocument rejection (ofMachine (app platform))

abbrev wholeSystem : Program Backend ((AppOwn × CloudOwn) × ScreenOwn) SystemAction :=
  withScreens platform order listing (writers platform cloud toDocument rejection)

end System

/-! ## A day of everybody

Annie and Ben play, and Zoe answers over HTTP meanwhile. Dan has taken the id of her response for
his username, and his streak is stored while a leaderboard screen is loading. -/

/-- The whole system before its first step. -/
def opening (quiz : List TriviaQuestion) : SystemState :=
  ((firstLaunch quiz).store, (((firstLaunch quiz).sites, (firstLaunch quiz).pool),
    (fun _ => none, fun _ => none)), (fun _ => none, fun _ => none))

def asStored : Listing := ⟨AList.entries, fun _ => .refl _⟩

def asAssigned : IterationOrder := ⟨id, fun _ => .refl _⟩

/-- An id of a new document. -/
def autoId : String := "Zw3Qk8LbN5cYp0RtXv2J"

def everybody : List SystemAction :=
  [.inl (.inr (.react 0 (.request (stringRequest "zoe" "Paris" (march.dateFormattedForDb 0)) autoId)
    0))] ++
  (bothAnswer.take 60).map (.inl ∘ .inl) ++ (Async.await 0 true).map (.inl ∘ .inr) ++
  (bothAnswer.drop 60).map (.inl ∘ .inl) ++ (Async.await 0 true).map (.inl ∘ .inr) ++
  (signUp 2 "dan@example.com" autoId ++ ([.react 2 (.tapSubmitAnswer 0 "Paris") 0] : List Action) ++
    advance 0 ++ advance 0).map (.inl ∘ .inl) ++
  [.inr (.react 0 .appears 0)] ++ (Async.await 0 true).map .inr ++
  (advance 0 ++ advance 0).map (.inl ∘ .inl) ++
  (Async.await 0 true ++ Async.await 0 true).map .inr

abbrev marchSystem :=
  wholeSystem march plainCloud addedDocument (.error "unavailable") asAssigned asStored

/-- At the end of the day the screen has rows in both its lists. -/
theorem everybody_shows : ∃ last view,
    Run marchSystem Any (opening [capital]) everybody last ∧ last.2.2.1 0 = some view ∧
    view.correctAnswerLeaderboard = [⟨autoId, 1⟩] ∧
    view.streakLeaderboard = [⟨autoId, 1⟩, ⟨"annie", 1⟩] := by
  have shown : (((execute marchSystem (opening [capital]) everybody).bind fun last =>
      last.2.2.1 0).filter fun view => view.correctAnswerLeaderboard = [⟨autoId, 1⟩] ∧
        view.streakLeaderboard = [⟨autoId, 1⟩, ⟨"annie", 1⟩]).isSome = true := by decide +kernel
  obtain ⟨view, shown⟩ := Option.isSome_iff_exists.mp shown
  obtain ⟨shown, rows⟩ := Option.filter_eq_some_iff.mp shown
  obtain ⟨last, executed, present⟩ := Option.bind_eq_some_iff.mp shown
  obtain ⟨correct, streaks⟩ := of_decide_eq_true rows
  exact ⟨last, view, .of_execute (fun _ _ _ => trivial) executed, present, correct, streaks⟩

variable {platform : Platform} {cloud : Cloud} {toDocument : JsFields → Doc} {rejection : JsThrown}
variable {order : IterationOrder} {listing : Listing}

/-! ## What each of them can tell apart -/

/-- The stores differ at most in `responses`. -/
structure SameOutside (store store' : Backend) : Prop where
  documents : ∀ collection, collection ≠ .allResponses →
    store.documents collection = store'.documents collection
  accounts : store.accounts = store'.accounts

/-- The stores have the same questions and the same `responses`. -/
structure SameInside (store store' : Backend) : Prop where
  questions : store.documents .questions = store'.documents .questions
  responses : store.documents .allResponses = store'.documents .allResponses

theorem SameOutside.refl (store : Backend) : SameOutside store store := ⟨fun _ _ => rfl, rfl⟩

theorem SameInside.refl (store : Backend) : SameInside store store := ⟨rfl, rfl⟩

/-- The collection a call reads from or writes to. -/
def Call.collection : Call → Option CollectionRef
  | .getDocument ref | .setData ref _ | .mergeData ref _ => some ref.collection
  | .whereField collection _ _ => some collection
  | .pause | .createUser _ | .signIn _ | .googleSignIn _ => none

/-- The app has no business in `responses`. -/
theorem call_collection (platform : Platform) (task : Task) :
    (call platform task).collection ≠ some .allResponses := by
  cases task with
  | signIn task => cases task <;> nofun
  | load view task => cases task <;> nofun
  | submit view task => cases task <;> nofun
  | enterUsername view task => cases task <;> nofun
  | review view task => cases task <;> nofun
  | logout view signOutThrows => nofun

/-- The quiz is written by its authors only. -/
theorem write_collection (platform : Platform) (task : Task)
    (writes : (call platform task).isWrite = true) :
    (call platform task).collection ≠ some .questions := by
  cases task with
  | signIn task => cases task <;> nofun
  | load view task => cases task <;> cases writes
  | submit view task => cases task <;> nofun
  | enterUsername view task => cases task <;> nofun
  | review view task => cases task <;> nofun
  | logout view signOutThrows => cases writes

variable {store store' after : Backend} {reply : Reply} {awaited : Call}

theorem SameOutside.get (agree : SameOutside store store') {ref : DocumentRef}
    (elsewhere : ref.collection ≠ .allResponses) :
    Documents.get store.documents ref = Documents.get store'.documents ref := by
  simp only [Documents.get, agree.documents _ elsewhere]

theorem SameOutside.set (agree : SameOutside store store') {ref : DocumentRef} (document : Doc)
    (elsewhere : ref.collection ≠ .allResponses) :
    SameOutside { store with documents := Documents.set store.documents ref document }
      { store' with documents := Documents.set store'.documents ref document } where
  documents collection apart := by
    simp only [Documents.set, agree.documents _ elsewhere]
    by_cases here : collection = ref.collection
    · subst here
      simp
    · simp [Function.update_of_ne here, agree.documents collection apart]
  accounts := agree.accounts

/-- A call outside `responses` is answered alike. -/
theorem serve_sameOutside (elsewhere : awaited.collection ≠ some .allResponses)
    (agree : SameOutside store store') (served : serve platform store awaited = some (after, reply)) :
    ∃ after', serve platform store' awaited = some (after', reply) ∧ SameOutside after after' := by
  cases awaited with
  | pause | googleSignIn user =>
    cases served
    exact ⟨store', rfl, agree⟩
  | getDocument ref =>
    cases served
    have apart : ref.collection ≠ .allResponses := fun same => elsewhere (congrArg some same)
    exact ⟨store', by simp only [serve, agree.get apart], agree⟩
  | setData ref data =>
    cases served
    have apart : ref.collection ≠ .allResponses := fun same => elsewhere (congrArg some same)
    exact ⟨_, rfl, agree.set data apart⟩
  | mergeData ref data =>
    cases served
    have apart : ref.collection ≠ .allResponses := fun same => elsewhere (congrArg some same)
    refine ⟨_, rfl, ?_⟩
    rw [setMerging, setMerging, agree.get apart]
    exact agree.set _ apart
  | whereField collection name value =>
    cases served
    have apart : collection ≠ .allResponses := fun same => elsewhere (congrArg some same)
    exact ⟨store', by simp only [serve, Documents.whereField, agree.documents _ apart], agree⟩
  | createUser email =>
    simp only [serve] at served ⊢
    rw [← agree.accounts]
    split at served
    · cases served
    · cases served
      exact ⟨_, if_neg ‹_›, agree.documents, rfl⟩
  | signIn email =>
    simp only [serve] at served ⊢
    rw [← agree.accounts]
    split at served
    · cases served
      exact ⟨store', if_pos ‹_›, agree⟩
    · cases served

/-- The app's calls leave the questions and `responses` alone. -/
theorem serve_sameInside (task : Task) (agree : SameInside store store')
    (served : serve platform store (call platform task) = some (after, reply)) :
    SameInside after store' := by
  have quiz := write_collection platform task
  have business := call_collection platform task
  cases awaited : call platform task with
  | setData ref data | mergeData ref data =>
    rw [awaited] at served quiz business
    cases served
    have apart : ref.collection ≠ .allResponses := fun same => business (congrArg some same)
    have apart' : ref.collection ≠ .questions := fun same => quiz rfl (congrArg some same)
    constructor
    · simp [setMerging, Documents.set, Function.update_of_ne apart'.symm, agree.questions]
    · simp [setMerging, Documents.set, Function.update_of_ne apart.symm, agree.responses]
  | createUser email =>
    rw [awaited] at served
    simp only [serve] at served
    split at served <;> cases served
    exact ⟨agree.questions, agree.responses⟩
  | signIn email =>
    rw [awaited] at served
    simp only [serve] at served
    split at served <;> cases served
    exact agree
  | _ =>
    rw [awaited] at served
    cases served
    exact agree

/-! ## Each of them alone -/

theorem app_respects (platform : Platform) : Respects SameOutside (ofMachine (app platform)) :=
  respects_ofMachine fun task _ _ _ _ agree served =>
    serve_sameOutside (call_collection platform task) agree served

theorem app_spares (platform : Platform) : Spares SameInside (ofMachine (app platform)) :=
  spares_ofMachine fun task _ _ _ _ agree served => serve_sameInside task agree served

theorem cloud_spares (cloud : Cloud) (toDocument : JsFields → Doc) (rejection : JsThrown) :
    Spares SameOutside (ofMachine (cloudFunction cloud toDocument rejection)) := by
  apply spares_ofMachine
  intro task store store' after reply agree served
  cases task with
  | getQuestion asked =>
    cases served
    exact agree
  | addResponse graded id =>
    simp only [cloudFunction, RequestTask.call, serveCloud] at served
    split at served <;> cases served
    refine ⟨fun collection apart => ?_, agree.accounts⟩
    simpa [Documents.set, Function.update_of_ne apart] using agree.documents collection apart

theorem screens_spare (platform : Platform) (order : IterationOrder) (listing : Listing) :
    Spares (· = ·) (ofMachine (leaderboards platform order listing)) := by
  apply spares_ofMachine
  rintro task store _ after reply rfl served
  cases task <;> cases served <;> rfl

/-- The app leaves every document of `responses` as it is. -/
theorem app_sparesResponses (platform : Platform) :
    SparesResponses (ofMachine (app platform)) := by
  rintro ⟨store, own⟩ action ⟨after, next⟩ id moved
  have same := (app_spares platform _ _ _ _ _ _ (SameInside.refl store) moved).responses
  simp only [Documents.get, same]

section Runs

variable {begin last : SystemState}
variable {actions : List SystemAction}
variable {backend : Backend}

/-- The steps of the app and of the cloud function. -/
def writing (actions : List SystemAction) :
    List (Action ⊕ Async.Action CloudEvent) :=
  actions.filterMap Sum.getLeft?

/-- The steps of the app. -/
def ofApp (actions : List SystemAction) :
    List Action :=
  (writing actions).filterMap Sum.getLeft?

/-- The app on a store, with its devices and its tasks. -/
def appOn (store : Backend) (own : AppOwn) : World := ⟨store, own.1, own.2⟩

/-- Without the screens everything is the same. -/
theorem writers_of_system
    (executed : execute (wholeSystem platform cloud toDocument rejection order listing) begin actions =
      some last) :
    execute (writers platform cloud toDocument rejection) (begin.1, begin.2.1) (writing actions) =
      some (last.1, last.2.1) := by
  obtain ⟨after', alone, rfl⟩ := execute_left (respects_eq _) (screens_spare platform order listing)
    (Run.of_execute (fun _ _ _ => trivial) executed : Run _ Any _ _ _) rfl
  exact alone

/-- Without the requests the app does the same, on any store with the documents that it can see. -/
theorem app_of_writers {begun : Backend × AppOwn × CloudOwn} {ended : Backend × AppOwn × CloudOwn}
    {written : List (Action ⊕ Async.Action CloudEvent)}
    (executed : execute (writers platform cloud toDocument rejection) begun written = some ended)
    {store : Backend} (agree : SameOutside begun.1 store) :
    ∃ store', execute (step platform) (appOn store begun.2.1) (written.filterMap Sum.getLeft?) =
        some (appOn store' ended.2.1) ∧ SameOutside ended.1 store' := by
  obtain ⟨after', alone, agree⟩ := execute_left (app_respects platform)
    (cloud_spares cloud toDocument rejection)
    (Run.of_execute (fun _ _ _ => trivial) executed : Run _ Any _ _ _) agree
  have ran := (execute_ofMachine (appOn store begun.2.1) (written.filterMap Sum.getLeft?)).symm.trans
    alone
  obtain ⟨after, executed, same⟩ := Option.map_eq_some_iff.mp ran
  obtain ⟨rfl, own⟩ := Prod.mk.inj same
  refine ⟨after.store, ?_, agree⟩
  rw [executed, ← own]
  rfl

/-- The app does in a run of the whole system what it does alone, on any store with the documents
that it can see. -/
theorem app_of_system (platform : Platform) (cloud : Cloud) (toDocument : JsFields → Doc)
    (rejection : JsThrown) (order : IterationOrder) (listing : Listing)
    (begin last : SystemState)
    (actions : List SystemAction)
    (run : Run (wholeSystem platform cloud toDocument rejection order listing) Any begin actions last)
    (store : Backend) (agree : SameOutside begin.1 store) :
    ∃ store', execute (step platform) (appOn store begin.2.1.1) (ofApp actions) =
        some (appOn store' last.2.1.1) ∧ SameOutside last.1 store' :=
  app_of_writers (writers_of_system run.execute) agree

theorem app_everybody : ∃ (last : SystemState) (store : Backend),
    execute (step march) (firstLaunch [capital]) (ofApp everybody) = some (appOn store last.2.1.1) ∧
    SameOutside last.1 store := by
  obtain ⟨last, _, run, _⟩ := everybody_shows
  obtain ⟨store, executed, agree⟩ := app_of_system march plainCloud addedDocument
    (.error "unavailable") asAssigned asStored _ last everybody run _ (SameOutside.refl _)
  exact ⟨last, store, executed, agree⟩

/-! ## Requests -/

/-- The quiz stays as it is. -/
theorem quiz_of_past {backend : Backend}
    {start : Backend × AppOwn × CloudOwn} {written : List (Action ⊕ Async.Action CloudEvent)}
    (been : PastStore (writers platform cloud toDocument rejection) start written backend) :
    backend.documents .questions = start.1.documents .questions := by
  obtain ⟨own, earlier, _, executed⟩ := been
  have run : Run (writers platform cloud toDocument rejection) Any start earlier (backend, own) :=
    .of_execute (fun _ _ _ => trivial) executed
  refine run.invariant (fun state => state.1.documents .questions = start.1.documents .questions)
    rfl ?_
  rintro ⟨store, app, requests⟩ (action | action) ⟨after, app', requests'⟩ held _ moved
  · have took := (beside_inl.mp moved).1
    exact (app_spares platform _ _ _ _ _ _ (SameInside.refl store) took).questions.trans held
  · have took := (beside_inr.mp moved).1
    have same := cloud_spares cloud toDocument rejection _ _ _ _ _ _ (SameOutside.refl store) took
    exact (same.documents .questions nofun).trans held

/-- The cloud function looks for questions in `questions`. -/
def AsksTheQuiz (cloud : Cloud) : Prop :=
  ∀ path ref, cloud.questionDoc path = some ref → ref.collection = .questions

/-- Of a store a request reads the quiz. -/
theorem answeredCalls_quiz (asks : AsksTheQuiz cloud) {backend quiz : Backend}
    (same : backend.documents .questions = quiz.documents .questions) (added : Except JsThrown Unit) :
    answeredCalls cloud (momentary backend) added = answeredCalls cloud (momentary quiz) added := by
  have reads : ∀ date, (questionDoc cloud date).bind (momentary backend) =
      (questionDoc cloud date).bind (momentary quiz) := by
    intro date
    cases date with
    | string path =>
      cases named : cloud.questionDoc path with
      | none => simp only [questionDoc, named]; rfl
      | some ref =>
        simp only [questionDoc, named, Except.bind, momentary, Documents.get, asks path ref named, same]
    | _ => rfl
  simp only [answeredCalls, reads]

/-- In every run of the whole system a request that has come to its end has been handled as in one
go on the quiz, and every new response grades a request on the quiz. -/
theorem requests_of_system (platform : Platform) (cloud : Cloud) (toDocument : JsFields → Doc)
    (rejection : JsThrown) (order : IterationOrder) (listing : Listing)
    (begin last : SystemState)
    (actions : List SystemAction)
    (asks : AsksTheQuiz cloud) (idle : begin.2.1.2 = (fun _ => none, fun _ => none))
    (run : Run (wholeSystem platform cloud toDocument rejection order listing) Any begin actions last) :
    (∀ site request, last.2.1.2.1 site = some request →
      (∀ number task phase, last.2.1.2.2 number ≠ some ⟨site, task, phase⟩) →
      HandledAtOnce cloud toDocument rejection (· = begin.1) last.1 request) ∧
    ∀ id document, get last.1.documents ⟨.allResponses, id⟩ = some document →
      get begin.1.documents ⟨.allResponses, id⟩ = some document ∨
      ∃ body data, SentIn (writing actions) body id ∧ document = toDocument data ∧
        (submitAnswerHandler cloud (answeredCalls cloud (momentary begin.1) (.ok ())) body).added =
          [data] := by
  have writes : Run (writers platform cloud toDocument rejection) Any (begin.1, begin.2.1)
      (writing actions) (last.1, last.2.1) :=
    .of_execute (fun _ _ _ => trivial) (writers_of_system run.execute)
  obtain ⟨handled, origin⟩ := requests_of_run cloud toDocument rejection (ofMachine (app platform))
    (app_sparesResponses platform) _ _ _ idle writes
  constructor
  · intro site request present ended
    obtain ⟨⟨read, added, wasRead, wasAdded, same⟩, recorded⟩ := handled site request present ended
    refine ⟨?_, recorded⟩
    rcases wasRead with rejected | ⟨backend, been, rfl⟩
    · exact ⟨read, added, .inl rejected, wasAdded, same⟩
    · refine ⟨momentary begin.1, added, .inr ⟨begin.1, rfl, rfl⟩, wasAdded, ?_⟩
      rw [same, answeredCalls_quiz asks (quiz_of_past been)]
  · intro id document present
    refine (origin id document present).imp_right ?_
    rintro ⟨body, backend, data, sent, been, rfl, graded⟩
    rw [answeredCalls_quiz asks (quiz_of_past been)] at graded
    exact ⟨body, data, sent, rfl, graded⟩

theorem requests_everybody : ∃ last : SystemState,
    (∀ site request, last.2.1.2.1 site = some request →
      (∀ number task phase, last.2.1.2.2 number ≠ some ⟨site, task, phase⟩) →
      HandledAtOnce plainCloud addedDocument (.error "unavailable") (· = (opening [capital]).1) last.1
        request) ∧
    ∀ id document, get last.1.documents ⟨.allResponses, id⟩ = some document →
      get (opening [capital]).1.documents ⟨.allResponses, id⟩ = some document ∨
      ∃ body data, SentIn (writing everybody) body id ∧ document = addedDocument data ∧
        (submitAnswerHandler plainCloud
          (answeredCalls plainCloud (momentary (opening [capital]).1) (.ok ())) body).added =
          [data] := by
  obtain ⟨last, _, run, _⟩ := everybody_shows
  have asks : AsksTheQuiz plainCloud := by
    rintro path ref ⟨⟩
    rfl
  exact ⟨last, requests_of_system march plainCloud addedDocument (.error "unavailable") asAssigned
    asStored _ last everybody asks rfl run⟩

/-! ## Leaderboards -/

/-- A moment of the whole system is one of its writers and, outside `responses`, one of the app. -/
theorem moment_of_past {backend : Backend}
    (been : PastStore (wholeSystem platform cloud toDocument rejection order listing) begin actions
      backend) :
    ∃ earlier own, earlier <+: actions ∧
      execute (writers platform cloud toDocument rejection) (begin.1, begin.2.1) (writing earlier) =
        some (backend, own) ∧
      ∃ store, execute (step platform) (appOn begin.1 begin.2.1.1) (ofApp earlier) =
        some (appOn store own.1) ∧ SameOutside backend store := by
  obtain ⟨own, earlier, before, executed⟩ := been
  have writes := writers_of_system executed
  exact ⟨earlier, own.1, before, writes, app_of_writers writes (SameOutside.refl begin.1)⟩

/-- The streak leaderboard does not depend on `responses`. -/
theorem ListsStreaks.outside {store store' : Backend} {leaderboard : List LeaderboardEntry}
    (agree : SameOutside store store') (lists : ListsStreaks store'.documents leaderboard) :
    ListsStreaks store.documents leaderboard := by
  have same : ∀ username, streakIn store.documents username = streakIn store'.documents username := by
    intro username
    have elsewhere : (streakRef username).collection ≠ .allResponses := nofun
    rw [streakIn, streakIn, agree.get elsewhere]
  refine ⟨fun username value => ?_, lists.once, lists.positive, lists.ordered⟩
  rw [same]
  exact lists.listed username value

/-- At every moment of a run that is not too long, the streak leaderboard is fetched and lists the
streaks that are stored. -/
theorem listsStreaks_of_past {backend : Backend} (order : IterationOrder) (listing : Listing)
    (initial : Initial (appOn begin.1 begin.2.1.1)) (short : actions.length < 2 ^ 63)
    (been : PastStore (wholeSystem platform cloud toDocument rejection order listing) begin actions
      backend)
    (apart : ∀ first ∈ backend.documents .streaks, ∀ second ∈ backend.documents .streaks,
      first ≠ second → platform.equal first second = false) :
    ∃ leaderboard, fetchStreakLeaderboard platform order
        ((listing.documents (backend.documents .streaks)).map Sigma.snd) = some leaderboard ∧
      ListsStreaks backend.documents leaderboard := by
  obtain ⟨earlier, own, before, _, store, executed, agree⟩ := moment_of_past been
  have fewer : (ofApp earlier).length < 2 ^ 63 := by
    have first := List.length_filterMap_le Sum.getLeft? earlier
    have second := List.length_filterMap_le Sum.getLeft? (writing earlier)
    have third := before.length_le
    simp only [ofApp, writing] at *
    omega
  have sameStreaks := agree.documents .streaks nofun
  have listed := (listing.perm (backend.documents .streaks)).map Sigma.snd
  rw [sameStreaks] at listed apart ⊢
  have appRun : Run (step platform) Any _ (ofApp earlier) (appOn store own.1) :=
    .of_execute (fun _ _ _ => trivial) executed
  obtain ⟨leaderboard, fetched, lists⟩ := listsStreaks_of_bounded order
    (encodes_run initial appRun) (streaksUpTo_run initial appRun).1 fewer apart listed
  exact ⟨leaderboard, fetched, lists.outside agree⟩

/-- In every run of the whole system a leaderboard screen lists correct answers only under ids under
which a request has stored a response, and the streaks as they are stored at one moment. -/
theorem leaderboards_of_system (platform : Platform) (cloud : Cloud) (toDocument : JsFields → Doc)
    (rejection : JsThrown) (order : IterationOrder) (listing : Listing)
    (begin last : SystemState)
    (actions : List SystemAction)
    (initial : Initial (appOn begin.1 begin.2.1.1))
    (idle : begin.2.1.2 = (fun _ => none, fun _ => none))
    (closed : begin.2.2 = (fun _ => none, fun _ => none))
    (run : Run (wholeSystem platform cloud toDocument rejection order listing) Any begin actions last)
    (short : actions.length < 2 ^ 63)
    (apart : ∀ backend,
      PastStore (wholeSystem platform cloud toDocument rejection order listing) begin actions backend →
      ∀ first ∈ backend.documents .streaks, ∀ second ∈ backend.documents .streaks,
        first ≠ second → platform.equal first second = false)
    (site : ℕ) (view : LeaderboardView) (present : last.2.2.1 site = some view) :
    (∀ entry ∈ view.correctAnswerLeaderboard, ∃ id body, SentIn (writing actions) body id ∧
      (entry.username = id ∨ platform.equal entry.username id = true) ∧
      (∃ backend,
        PastStore (wholeSystem platform cloud toDocument rejection order listing) begin actions backend ∧
        (get backend.documents ⟨.allResponses, id⟩).isSome = true) ∧
      0 < entry.value ∧ ∃ backend,
        PastStore (wholeSystem platform cloud toDocument rejection order listing) begin actions backend ∧
        correctCount backend.documents id = entry.value) ∧
    (view.streakLeaderboard = [] ∨ ∃ backend,
      PastStore (wholeSystem platform cloud toDocument rejection order listing) begin actions backend ∧
      ListsStreaks backend.documents view.streakLeaderboard) := by
  have truth := (truthful_of_run closed run).1.screens site view present
  constructor
  · intro entry listed
    obtain ⟨positive, id, named, ⟨backend, been, user⟩, counted⟩ := truth.correct entry listed
    obtain ⟨earlier, own, before, writes, _⟩ := moment_of_past been
    obtain ⟨_, origin⟩ := requests_of_run cloud toDocument rejection (ofMachine (app platform))
      (app_sparesResponses platform) _ _ _ idle (.of_execute (fun _ _ _ => trivial) writes)
    obtain ⟨document, stored⟩ := Option.isSome_iff_exists.mp (AList.lookup_isSome.mpr user)
    rcases origin id document stored with there | ⟨body, _, _, ⟨site, number, sent⟩, _⟩
    · have nothing := initial.noDocument ⟨.allResponses, id⟩ nofun
      exact absurd (nothing.symm.trans there) nofun
    · have sent' := (before.filterMap Sum.getLeft?).subset sent
      exact ⟨id, body, ⟨site, number, sent'⟩, named, ⟨backend, been, AList.lookup_isSome.mpr user⟩,
        positive, counted⟩
  · refine truth.streaks.imp_right ?_
    rintro ⟨backend, been, fetched⟩
    refine ⟨backend, been, ?_⟩
    obtain ⟨leaderboard, again, lists⟩ :=
      listsStreaks_of_past order listing initial short been (apart backend been)
    obtain rfl := Option.some.inj (fetched.symm.trans again)
    exact lists

theorem leaderboards_everybody : ∃ (last : SystemState) (view : LeaderboardView),
    last.2.2.1 0 = some view ∧ view.correctAnswerLeaderboard = [⟨autoId, 1⟩] ∧
    view.streakLeaderboard = [⟨autoId, 1⟩, ⟨"annie", 1⟩] ∧
    (∀ entry ∈ view.correctAnswerLeaderboard, ∃ id body, SentIn (writing everybody) body id ∧
      (entry.username = id ∨ march.equal entry.username id = true) ∧
      (∃ backend, PastStore marchSystem (opening [capital]) everybody backend ∧
        (get backend.documents ⟨.allResponses, id⟩).isSome = true) ∧
      0 < entry.value ∧ ∃ backend, PastStore marchSystem (opening [capital]) everybody backend ∧
        correctCount backend.documents id = entry.value) ∧
    (view.streakLeaderboard = [] ∨ ∃ backend,
      PastStore marchSystem (opening [capital]) everybody backend ∧
      ListsStreaks backend.documents view.streakLeaderboard) := by
  obtain ⟨last, view, run, present, correct, streaks⟩ := everybody_shows
  exact ⟨last, view, present, correct, streaks, leaderboards_of_system march plainCloud
    addedDocument (.error "unavailable") asAssigned asStored (opening [capital]) last everybody
    (initial_firstLaunch [capital]) rfl rfl run (by decide +kernel)
    (fun _ _ _ _ _ _ => equal_march_of_ne) 0 view present⟩

/-- After every run of the whole system, a leaderboard screen that is presented while nothing else
happens makes its reads one after another, comes to its end and shows what both fetches return of the
store; its streaks are the stored ones. -/
theorem presented_of_system (platform : Platform) (cloud : Cloud) (toDocument : JsFields → Doc)
    (rejection : JsThrown) (order : IterationOrder) (listing : Listing)
    (begin last : SystemState) (actions : List SystemAction)
    (initial : Initial (appOn begin.1 begin.2.1.1))
    (run : Run (wholeSystem platform cloud toDocument rejection order listing) Any begin actions last)
    (short : actions.length < 2 ^ 63)
    (apart : ∀ first ∈ last.1.documents .streaks, ∀ second ∈ last.1.documents .streaks,
      first ≠ second → platform.equal first second = false)
    (site number : ℕ) (closed : last.2.2.1 site = none) (free : last.2.2.2 number = none) :
    (∀ k call, (screenReads listing last.1)[k]? = some call → ∃ between task,
      execute (wholeSystem platform cloud toDocument rejection order listing) last
        ((Async.uninterrupted site .appears number k).map .inr) = some between ∧
      between.2.2.2 number = some ⟨site, task, .issued⟩ ∧ task.call = call) ∧
    ∃ shown view,
      execute (wholeSystem platform cloud toDocument rejection order listing) last
        ((Async.uninterrupted site .appears number (screenReads listing last.1).length).map .inr) =
        some shown ∧
      shown.1 = last.1 ∧ shown.2.1 = last.2.1 ∧ shown.2.2.2 number = none ∧
      shown.2.2.1 site = some view ∧ view.isLoading = false ∧
      view.correctAnswerLeaderboard =
        fetchCorrectAnswersLeaderboard platform order last.1.documents (usersSnapshot listing last.1) ∧
      fetchStreakLeaderboard platform order
        ((listing.documents (last.1.documents .streaks)).map Sigma.snd) =
        some view.streakLeaderboard ∧
      ListsStreaks last.1.documents view.streakLeaderboard := by
  have been : PastStore (wholeSystem platform cloud toDocument rejection order listing) begin actions
      last.1 := ⟨last.2, visited_last run.execute⟩
  obtain ⟨streaks, fetches, lists⟩ := listsStreaks_of_past order listing initial short been apart
  have makes := makes_fetched platform order listing fetches
  let screens : Screens := tasksOf last
  have appears : (leaderboards platform order listing).react .appears (screens.sites site) =
      some (some {}, some .readUsers) := by
    rw [show screens.sites site = none from closed]
    rfl
  have idle : screens.pool number = none := free
  -- the screens alone do what they do beside everybody else
  have beside : ∀ count {after : Screens}, execute (Async.step (leaderboards platform order listing))
      screens (Async.uninterrupted site .appears number count) = some after →
      execute (wholeSystem platform cloud toDocument rejection order listing) last
        ((Async.uninterrupted site .appears number count).map .inr) =
        some (after.store, last.2.1, after.sites, after.pool) := by
    intro count after presented
    have together := execute_inr (P := writers platform cloud toDocument rejection)
      (Q := ofMachine (leaderboards platform order listing)) last.2.1 (last.1, last.2.2)
      (Async.uninterrupted site .appears number count)
    have alone := execute_ofMachine (M := leaderboards platform order listing) screens
      (Async.uninterrupted site .appears number count)
    rw [presented] at alone
    exact together.trans (congrArg _ alone)
  constructor
  · intro k call listed
    obtain ⟨between, task, suspends, suspended, calls⟩ :=
      Async.suspended_of_makes idle appears makes listed
    exact ⟨_, task, beside k suspends, suspended, calls⟩
  · exact ⟨_, fetched platform order listing last.1 streaks,
      beside _ (Async.execute_alone idle appears makes.alone), rfl, rfl, free,
      Function.update_self _ _ _, rfl, rfl, fetches, lists⟩

theorem presented_everybody : ∃ last : SystemState,
    execute marchSystem (opening [capital]) everybody = some last ∧
    (screenReads asStored last.1 = [.getDocuments .allResponses,
      .whereField (.responses autoId) "answerOutcome" (.bool true), .getDocuments .streaks]) ∧
    (∀ k call, (screenReads asStored last.1)[k]? = some call → ∃ between task,
      execute marchSystem last ((Async.uninterrupted 1 .appears 1 k).map .inr) = some between ∧
      between.2.2.2 1 = some ⟨1, task, .issued⟩ ∧ task.call = call) ∧
    ∃ shown view,
      execute marchSystem last
        ((Async.uninterrupted 1 .appears 1 (screenReads asStored last.1).length).map .inr) =
        some shown ∧
      shown.1 = last.1 ∧ shown.2.1 = last.2.1 ∧ shown.2.2.2 1 = none ∧
      shown.2.2.1 1 = some view ∧ view.isLoading = false ∧
      view.correctAnswerLeaderboard = fetchCorrectAnswersLeaderboard march asAssigned
        last.1.documents (usersSnapshot asStored last.1) ∧
      fetchStreakLeaderboard march asAssigned
        ((asStored.documents (last.1.documents .streaks)).map Sigma.snd) =
        some view.streakLeaderboard ∧
      ListsStreaks last.1.documents view.streakLeaderboard := by
  have possible : ((execute marchSystem (opening [capital]) everybody).filter fun last =>
      (last.2.2.1 1).isNone ∧ (last.2.2.2 1).isNone ∧
        usersSnapshot asStored last.1 = [autoId]).isSome = true := by decide +kernel
  obtain ⟨last, possible⟩ := Option.isSome_iff_exists.mp possible
  obtain ⟨executed, ready⟩ := Option.filter_eq_some_iff.mp possible
  obtain ⟨closed, free, users⟩ := of_decide_eq_true ready
  exact ⟨last, executed, by rw [screenReads, users]; rfl, presented_of_system march plainCloud
    addedDocument (.error "unavailable") asAssigned asStored (opening [capital]) last everybody
    (initial_firstLaunch [capital]) (.of_execute (fun _ _ _ => trivial) executed) (by decide +kernel)
    (fun _ _ _ _ => equal_march_of_ne) 1 1 (Option.isNone_iff_eq_none.mp closed)
    (Option.isNone_iff_eq_none.mp free)⟩

end Runs

end DailyTrivia

import DailyTrivia.Documents
import Mathlib.Data.Nat.Notation

/-!
The app's data: the models it decodes, the documents it writes and where it writes them.

`Platform` holds what the app takes from Foundation and Firebase Auth. A day is the number
of a civil day, and `dateFormattedForDb` the string every document of that day is keyed by.
Document ids are taken as they are. That is right of every id that is not empty and holds no
'/', an `IsSegment` of `References`, where references are parsed.
-/
namespace DailyTrivia

open Documents

/-- A Firebase account. Every account here signs in by e-mail, so its address is known. -/
structure FirebaseUser where
  uid : String
  email : String
  deriving DecidableEq

/-- A Google account; the address is missing if the profile is not shared. -/
structure GIDGoogleUser where
  email : Option String
  deriving DecidableEq

structure Platform where
  /-- `Date().dateFormattedForDb()` at any instant of a day. -/
  dateFormattedForDb : ℕ → String
  dateFormattedForDb_injective : Function.Injective dateFormattedForDb
  /-- The account that e-mail credentials sign in to. -/
  firebaseUser : String → FirebaseUser
  whitespacesAndNewlines : Char → Bool
  lowercased : String → String
  /-- `==` of Swift strings, canonical equivalence. -/
  equal : String → String → Bool
  /-- The `Character`s of a string. -/
  characters : String → List String

/-- A platform for plain text, with the days of March 2025 numbered from 0. -/
def march : Platform where
  dateFormattedForDb day := Nat.repr (20250301 + day)
  dateFormattedForDb_injective first second same := by
    have digits := congrArg (Nat.ofDigitChars 10 ·.toList 0) same
    simpa using digits
  firebaseUser email := { uid := "uid of " ++ email, email }
  whitespacesAndNewlines := Char.isWhitespace
  lowercased text := String.ofList (text.toList.map Char.toLower)
  equal := (· == ·)
  characters text := text.toList.map String.singleton

/-- `replacingOccurrences(of:with:)` of one character by another. -/
def replacingOccurrences (target replacement : Char) (text : String) : String :=
  String.ofList (text.toList.map fun c => if c = target then replacement else c)

@[irreducible]
def sanitizedEmail (email : String) : String :=
  replacingOccurrences '@' '_' (replacingOccurrences '.' '_' email)

/-- A sanitized address is left as it is. -/
theorem sanitizedEmail_sanitizedEmail (email : String) :
    sanitizedEmail (sanitizedEmail email) = sanitizedEmail email := by
  unfold sanitizedEmail replacingOccurrences
  simp only [String.toList_ofList, List.map_map]
  refine congrArg String.ofList (List.map_congr_left fun c _ => ?_)
  simp only [Function.comp_apply]
  split <;> split <;> simp_all

def trimmingCharacters (inSet : Char → Bool) (text : String) : String :=
  String.ofList (((text.toList.dropWhile inSet).reverse.dropWhile inSet).reverse)

/-! ## Models -/

structure User where
  email : String
  id : String
  username : Option String := none
  streak : Option Int := none
  deriving DecidableEq

def User.ofFirebaseUser (user : FirebaseUser) : User where
  id := user.uid
  email := sanitizedEmail user.email

def User.ofGoogleUser (user : GIDGoogleUser) : User where
  id := (user.email.map sanitizedEmail).getD ""
  email := (user.email.map sanitizedEmail).getD ""

/-- A missing address is sanitized to itself. -/
theorem ofGoogleUser_email (user : GIDGoogleUser) :
    (User.ofGoogleUser user).email = sanitizedEmail (user.email.getD "") := by
  cases address : user.email with
  | none =>
    simp only [User.ofGoogleUser, address]
    unfold sanitizedEmail
    rfl
  | some email => simp [User.ofGoogleUser, address]

def User.decode (document : Doc) : Option User := do
  let email ← document.string "email"
  let id ← document.string "id"
  let username ← document.optional "username" Doc.string
  let streak ← document.optional "streak" Doc.decodeInt
  pure { email, id, username, streak }

structure TriviaQuestion where
  question : String
  choices : Option (List String)
  correctAnswer : String
  date : String
  deriving DecidableEq

def TriviaQuestion.decode (document : Doc) : Option TriviaQuestion := do
  let question ← document.string "question"
  let choices ← document.optional "choices" Doc.strings
  let correctAnswer ← document.string "correctAnswer"
  let date ← document.string "date"
  pure { question, choices, correctAnswer, date }

structure SubmittedAnswer where
  date : String
  answerOutcome : Bool
  userAnswer : String
  deriving DecidableEq

def SubmittedAnswer.decode (document : Doc) : Option SubmittedAnswer := do
  let date ← document.string "date"
  let answerOutcome ← document.bool "answerOutcome"
  let userAnswer ← document.string "userAnswer"
  pure { date, answerOutcome, userAnswer }

structure ManualReview where
  username : String
  date : String
  question : String
  correctAnswer : String
  submittedAnswer : String
  userNote : String
  outcome : Bool
  streak : Int
  deriving DecidableEq

def ManualReview.decode (document : Doc) : Option ManualReview := do
  let username ← document.string "username"
  let date ← document.string "date"
  let question ← document.string "question"
  let correctAnswer ← document.string "correctAnswer"
  let submittedAnswer ← document.string "submittedAnswer"
  let userNote ← document.string "userNote"
  let outcome ← document.bool "outcome"
  let streak ← document.decodeInt "streak"
  pure { username, date, question, correctAnswer, submittedAnswer, userNote, outcome, streak }

/-! ## Collections and the documents written to them -/

inductive CollectionRef where
  | users
  | streaks
  | questions
  | manualReviews
  /-- `responses` -/
  | allResponses
  /-- `responses/{username}/responses` -/
  | responses (username : String)
  deriving DecidableEq

abbrev DocumentRef := Ref CollectionRef

def userRef (key : String) : DocumentRef := ⟨.users, key⟩

def streakRef (username : String) : DocumentRef := ⟨.streaks, username⟩

def questionRef (day : String) : DocumentRef := ⟨.questions, day⟩

def responseRef (username day : String) : DocumentRef := ⟨.responses username, day⟩

def manualReviewRef (username : String) : DocumentRef := ⟨.manualReviews, username⟩

theorem streakRef_ne_responseRef (username responder day : String) :
    streakRef username ≠ responseRef responder day := by
  simp [streakRef, responseRef]

/-- A document of the quiz. -/
def questionData (question : TriviaQuestion) : Doc :=
  fields [("question", .string question.question), ("correctAnswer", .string question.correctAnswer),
    ("date", .string question.date)]

/-- The document account creation writes whole. -/
def userData (key : String) : Doc :=
  fields [("email", .string key), ("id", .string key), ("createdAt", .timestamp)]

/-- The document `submitUsername` merges. -/
def usernameData (username : String) : Doc := fields [("username", .string username)]

/-- The document `updateCurrentUsersStreak` merges. -/
def streakData (username : String) (streak : Int) : Doc :=
  fields [("username", .string username), ("streak", .int streak)]

/-- `GameService.submitAnswer`: both answers are trimmed and lowercased, then compared. -/
def isCorrect (platform : Platform) (question : TriviaQuestion) (answerText : String) : Bool :=
  let clean := fun text =>
    platform.lowercased (trimmingCharacters platform.whitespacesAndNewlines text)
  platform.equal (clean answerText) (clean question.correctAnswer)

/-- The document `GameService.submitAnswer` writes. Its date is the question's. -/
def responseData (platform : Platform) (question : TriviaQuestion) (answerText username : String) :
    Doc :=
  fields [("username", .string username), ("date", .string question.date),
    ("userAnswer", .string answerText),
    ("answerOutcome", .bool (isCorrect platform question answerText)),
    ("question", .string question.question), ("timestamp", .timestamp)]

/-- The value `GameService.submitAnswer` mirrors the document in. -/
def submitted (platform : Platform) (question : TriviaQuestion) (answerText : String) :
    SubmittedAnswer where
  date := question.date
  answerOutcome := isCorrect platform question answerText
  userAnswer := answerText

/-- What `IncorrectAnswerView` hands to its review sheet. -/
structure ReviewForm where
  submittedAnswer : SubmittedAnswer
  correctAnswer : String
  username : String
  question : String
  streak : Int
  deriving DecidableEq

/-- The document `submitAnswerForManualReview` writes whole. -/
def reviewData (form : ReviewForm) (userNote date : String) : Doc :=
  fields [("username", .string form.username), ("date", .string date),
    ("question", .string form.question), ("correctAnswer", .string form.correctAnswer),
    ("submittedAnswer", .string form.submittedAnswer.userAnswer),
    ("outcome", .bool form.submittedAnswer.answerOutcome), ("userNote", .string userNote),
    ("streak", .int form.streak)]

/-! ## What is written can be decoded -/

theorem decode_userData (key : String) :
    User.decode (userData key) = some { email := key, id := key } := rfl

/-- A response decodes as the value it was mirrored in. -/
theorem decode_responseData (platform : Platform) (question : TriviaQuestion)
    (answerText username : String) :
    SubmittedAnswer.decode (responseData platform question answerText username) =
      some (submitted platform question answerText) := rfl

theorem decode_reviewData (form : ReviewForm) (userNote date : String) :
    ManualReview.decode (reviewData form userNote date) = some {
      username := form.username
      date
      question := form.question
      correctAnswer := form.correctAnswer
      submittedAnswer := form.submittedAnswer.userAnswer
      userNote
      outcome := form.submittedAnswer.answerOutcome
      streak := form.streak } := rfl

end DailyTrivia

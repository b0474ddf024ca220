import DailyTrivia.App
import DailyTrivia.CloudFunction

/-!
Two graders for one answer. The app and the cloud function both trim, lowercase and compare, each
with its own platform: Foundation strips U+0085 and not U+FEFF, ECMAScript the other way round
and with a rule for the final sigma, and Swift compares up to canonical equivalence where
ECMAScript compares code units.

What both take from the Unicode character database is a parameter, `Unicode`.
-/
namespace DailyTrivia

/-- What both platforms take from the Unicode character database. -/
structure Unicode where
  /-- The lowercase mapping of a scalar by itself. -/
  lowercase : Char → List Char
  /-- A capital sigma between these scalars, the ones before it and the ones after it, is final. -/
  finalSigma : List Char → List Char → Bool
  /-- The canonical decomposition. -/
  decomposed : List Char → List Char

/-- Category Z*. -/
def isSeparator (c : Char) : Bool :=
  c.val ∈ [0x20, 0xA0, 0x1680, 0x2028, 0x2029, 0x202F, 0x205F, 0x3000] ||
    (0x2000 ≤ c.val && c.val ≤ 0x200A)

/-- U+0009 to U+000D. -/
def isControlSpace (c : Char) : Bool := 0x9 ≤ c.val && c.val ≤ 0xD

/-- `CharacterSet.whitespacesAndNewlines` -/
def whitespacesAndNewlines (c : Char) : Bool :=
  isSeparator c || isControlSpace c || c = '\u0085'

/-- What `String.prototype.trim` strips: WhiteSpace and LineTerminator. -/
def whiteSpaceOrLineTerminator (c : Char) : Bool :=
  isSeparator c || isControlSpace c || c = '\uFEFF'

namespace Unicode

variable (unicode : Unicode)

/-- Swift's `lowercased()`, scalar by scalar. -/
def lowercased (text : String) : String := String.ofList (text.toList.flatMap unicode.lowercase)

/-- `==` of Swift strings. -/
def equal (first second : String) : Bool :=
  unicode.decomposed first.toList == unicode.decomposed second.toList

/-- The lowercase letters of what comes after some scalars. -/
def lowercaseAfter (before : List Char) : List Char → List Char
  | [] => []
  | c :: rest =>
    (if c = 'Σ' && unicode.finalSigma before rest then ['ς'] else unicode.lowercase c) ++
      lowercaseAfter (before ++ [c]) rest

/-- ECMAScript's `toLowerCase()`. -/
def toLowerCase (text : String) : String := String.ofList (unicode.lowercaseAfter [] text.toList)

/-- A platform of the app with this Unicode data. -/
def platform (base : Platform) : Platform := { base with
  whitespacesAndNewlines
  lowercased := unicode.lowercased
  equal := unicode.equal }

/-- A platform of the cloud function with this Unicode data. -/
def cloud (base : Cloud) : Cloud := { base with
  trim := trimmingCharacters whiteSpaceOrLineTerminator
  toLowerCase := unicode.toLowerCase }

end Unicode

/-- For this question and this answer, both record the same outcome and the function returns it. -/
def GradedAlike (platform : Platform) (cloud : Cloud) (question : TriviaQuestion)
    (answerText : String) : Prop :=
  ∀ (username userId date : String) (questionData : String → JsValue) (calls : FirestoreCalls),
    userId ≠ "" → date ≠ "" →
    calls.getQuestion (.string date) = .ok (some questionData) →
    questionData "correctAnswer" = .string question.correctAnswer →
    (∀ data, calls.addResponse data = .ok ()) →
    ∃ outcome reply response,
      (responseData platform question answerText username).bool "answerOutcome" = some outcome ∧
      submitAnswerHandler cloud calls (stringRequest userId answerText date) =
        { replies := [reply], added := [response] } ∧
      reply.status = 200 ∧ reply.json.lookup "correct" = some (.boolean outcome) ∧
      response.lookup "correct" = some (.boolean outcome)

/-- What both strip. -/
def isStripped (c : Char) : Bool := whitespacesAndNewlines c && whiteSpaceOrLineTerminator c

/-- The first scalar that is not stripped by both is stripped by neither. -/
def PlainEdge (letters : List Char) : Prop :=
  (letters.dropWhile isStripped).head? ≠ some '\u0085' ∧
    (letters.dropWhile isStripped).head? ≠ some '\uFEFF'

/-- At both ends. -/
def PlainEdges (text : String) : Prop :=
  PlainEdge text.toList ∧ PlainEdge (text.toList.dropWhile isStripped).reverse

/-- No capital sigma of the text is final. -/
def NoFinalSigma (unicode : Unicode) (text : String) : Prop :=
  ∀ before rest, text.toList = before ++ 'Σ' :: rest → unicode.finalSigma before rest = false

/-- Both trim and lowercase the text alike. -/
def CleanedAlike (unicode : Unicode) (text : String) : Prop :=
  PlainEdges text ∧ NoFinalSigma unicode (trimmingCharacters isStripped text)

/-- The text as the app compares it. -/
def cleaned (unicode : Unicode) (text : String) : String :=
  unicode.lowercased (trimmingCharacters whitespacesAndNewlines text)

/-- Two spellings of one text. -/
def SpelledApart (unicode : Unicode) (first second : String) : Prop :=
  cleaned unicode first ≠ cleaned unicode second ∧
    unicode.equal (cleaned unicode first) (cleaned unicode second) = true

variable {platform : Platform} {cloud : Cloud} {unicode : Unicode} {question : TriviaQuestion}
variable {answerText text : String} {letters : List Char}

/-! ## Trimming -/

theorem dropWhile_eq_of_head {p q : Char → Bool}
    (implied : ∀ c, q c = true → p c = true)
    (kept : ∀ c, (letters.dropWhile q).head? = some c → p c = false) :
    letters.dropWhile p = letters.dropWhile q := by
  induction letters with
  | nil => rfl
  | cons first rest ih =>
    by_cases strips : q first = true
    · rw [List.dropWhile_cons_of_pos strips] at kept ⊢
      rw [List.dropWhile_cons_of_pos (implied first strips)]
      exact ih kept
    · rw [List.dropWhile_cons_of_neg strips] at kept ⊢
      have stays := kept first rfl
      exact List.dropWhile_cons_of_neg (by simp [stays])

/-- A scalar that both keep ends the trimming of either. -/
theorem kept_of_plainEdge (plain : PlainEdge letters) {c : Char}
    (kept : (letters.dropWhile isStripped).head? = some c) :
    whitespacesAndNewlines c = false ∧ whiteSpaceOrLineTerminator c = false := by
  obtain ⟨noNextLine, noMark⟩ := plain
  rw [kept] at noNextLine noMark
  have stays := List.head?_dropWhile_not isStripped letters
  rw [kept] at stays
  simp only [isStripped, whitespacesAndNewlines, whiteSpaceOrLineTerminator] at stays ⊢
  simp_all

theorem dropWhile_plain (plain : PlainEdge letters) :
    letters.dropWhile whitespacesAndNewlines = letters.dropWhile isStripped ∧
    letters.dropWhile whiteSpaceOrLineTerminator = letters.dropWhile isStripped := by
  constructor
  · apply dropWhile_eq_of_head
    · intro c strips
      exact (Bool.and_eq_true_iff.mp strips).1
    · intro c kept
      exact (kept_of_plainEdge plain kept).1
  · apply dropWhile_eq_of_head
    · intro c strips
      exact (Bool.and_eq_true_iff.mp strips).2
    · intro c kept
      exact (kept_of_plainEdge plain kept).2

theorem trim_plain (plain : PlainEdges text) :
    trimmingCharacters whitespacesAndNewlines text = trimmingCharacters isStripped text ∧
    trimmingCharacters whiteSpaceOrLineTerminator text = trimmingCharacters isStripped text := by
  obtain ⟨front, back⟩ := plain
  obtain ⟨app, function⟩ := dropWhile_plain front
  obtain ⟨app', function'⟩ := dropWhile_plain back
  constructor
  · rw [trimmingCharacters, trimmingCharacters, app, app']
  · rw [trimmingCharacters, trimmingCharacters, function, function']

/-- The first scalar that a trim keeps at the front stays the first. -/
theorem head_trim (inSet : Char → Bool) (letters : List Char) :
    ((letters.dropWhile inSet).reverse.dropWhile inSet).reverse.head? =
      (letters.dropWhile inSet).head? := by
  have stays := List.head?_dropWhile_not inSet letters
  cases kept : letters.dropWhile inSet with
  | nil => rfl
  | cons first rest =>
    rw [kept] at stays
    have last : [first].dropWhile inSet = [first] := List.dropWhile_cons_of_neg (by simpa using stays)
    rw [List.reverse_cons, List.dropWhile_append, last]
    split <;> simp

/-- Two trims that keep the same first scalar find a plain edge. -/
theorem plainEdge_of_head (same : (letters.dropWhile whitespacesAndNewlines).head? =
    (letters.dropWhile whiteSpaceOrLineTerminator).head?) : PlainEdge letters := by
  have app := List.head?_dropWhile_not whitespacesAndNewlines letters
  have function := List.head?_dropWhile_not whiteSpaceOrLineTerminator letters
  constructor
  · intro nextLine
    have kept : letters.dropWhile whiteSpaceOrLineTerminator = letters.dropWhile isStripped := by
      apply dropWhile_eq_of_head
      · intro c strips
        exact (Bool.and_eq_true_iff.mp strips).2
      · intro c first
        cases nextLine.symm.trans first
        decide
    rw [same, kept, nextLine] at app
    revert app
    decide
  · intro mark
    have kept : letters.dropWhile whitespacesAndNewlines = letters.dropWhile isStripped := by
      apply dropWhile_eq_of_head
      · intro c strips
        exact (Bool.and_eq_true_iff.mp strips).1
      · intro c first
        cases mark.symm.trans first
        decide
    rw [← same, kept, mark] at function
    revert function
    decide

/-- Foundation and ECMAScript trim a text to the same exactly when its edges are plain. -/
theorem trim_eq_iff : trimmingCharacters whitespacesAndNewlines text =
    trimmingCharacters whiteSpaceOrLineTerminator text ↔ PlainEdges text := by
  constructor
  · intro same
    have letters := String.ofList_inj.mp same
    have front : PlainEdge text.toList := by
      apply plainEdge_of_head
      rw [← head_trim, ← head_trim, letters]
    obtain ⟨app, function⟩ := dropWhile_plain front
    rw [app, function] at letters
    refine ⟨front, plainEdge_of_head ?_⟩
    rw [List.reverse_inj.mp letters]
  · intro plain
    obtain ⟨app, function⟩ := trim_plain plain
    rw [app, function]

/-! ## Lowercasing -/

theorem lowercaseAfter_eq {before : List Char}
    (plain : ∀ more rest, letters = more ++ 'Σ' :: rest →
      unicode.finalSigma (before ++ more) rest = false) :
    unicode.lowercaseAfter before letters = letters.flatMap unicode.lowercase := by
  induction letters generalizing before with
  | nil => rfl
  | cons first rest ih =>
    have later := @ih (before ++ [first]) fun more rest' same => by
      rw [List.append_assoc]
      exact plain (first :: more) rest' (by rw [same]; rfl)
    rw [Unicode.lowercaseAfter, later, List.flatMap_cons]
    by_cases sigma : first = 'Σ'
    · have medial := plain [] rest (by rw [sigma]; rfl)
      rw [List.append_nil] at medial
      simp [medial]
    · simp [sigma]

/-- Both clean a plain text alike. -/
theorem toLowerCase_trim (alike : CleanedAlike unicode text) :
    unicode.toLowerCase (trimmingCharacters whiteSpaceOrLineTerminator text) =
      cleaned unicode text := by
  obtain ⟨plain, medial⟩ := alike
  obtain ⟨app, function⟩ := trim_plain plain
  rw [cleaned, app, function, Unicode.toLowerCase, Unicode.lowercased]
  refine congrArg String.ofList (lowercaseAfter_eq fun before rest same => ?_)
  exact medial before rest same

/-! ## Grading -/

/-- Both record what they grade. -/
theorem gradedAlike_iff_outcome (answered : answerText ≠ "") (nonempty : question.correctAnswer ≠ "") :
    GradedAlike platform cloud question answerText ↔
      isCorrect platform question answerText =
        gradedCorrect cloud answerText question.correctAnswer := by
  constructor
  · intro alike
    let calls : FirestoreCalls := {
      getQuestion _ := .ok (some fun _ => .string question.correctAnswer)
      addResponse _ := .ok () }
    obtain ⟨outcome, reply, response, recorded, handled, -, returned, -⟩ :=
      alike "user" "user" "day" (fun _ => .string question.correctAnswer) calls (by decide)
        (by decide) rfl rfl fun _ => rfl
    have graded := @handler_graded cloud calls "user" answerText "day" question.correctAnswer
      (fun _ => .string question.correctAnswer) (by decide) answered (by decide) rfl rfl nonempty
      fun _ => rfl
    rw [graded] at handled
    cases handled
    have app : isCorrect platform question answerText = outcome := Option.some.inj recorded
    have function : gradedCorrect cloud answerText question.correctAnswer = outcome :=
      JsValue.boolean.inj (Option.some.inj returned)
    rw [app, function]
  · intro same username userId date questionData calls given dated found correct stores
    refine ⟨isCorrect platform question answerText, _, _, rfl,
      handler_graded given answered dated found correct nonempty stores, rfl, ?_, ?_⟩
    · rw [same]
      rfl
    · rw [same]
      rfl

/-- Strings that both clean alike are graded alike unless they are two spellings of one text. -/
theorem gradedAlike_iff_not_spelledApart (base : Platform) (base' : Cloud)
    (answered : answerText ≠ "") (nonempty : question.correctAnswer ≠ "")
    (alike : CleanedAlike unicode answerText)
    (alike' : CleanedAlike unicode question.correctAnswer) :
    GradedAlike (unicode.platform base) (unicode.cloud base') question answerText ↔
      ¬ SpelledApart unicode answerText question.correctAnswer := by
  rw [gradedAlike_iff_outcome answered nonempty]
  have app : isCorrect (unicode.platform base) question answerText =
      unicode.equal (cleaned unicode answerText) (cleaned unicode question.correctAnswer) := rfl
  have function : gradedCorrect (unicode.cloud base') answerText question.correctAnswer =
      (cleaned unicode answerText == cleaned unicode question.correctAnswer) := by
    rw [← toLowerCase_trim alike, ← toLowerCase_trim alike']
    rfl
  rw [app, function, SpelledApart]
  by_cases same : cleaned unicode answerText = cleaned unicode question.correctAnswer
  · simp [same, Unicode.equal]
  · cases unicode.equal (cleaned unicode answerText) (cleaned unicode question.correctAnswer) <;>
      simp [same]

/-- Unicode data for plain letters. -/
def plainLetters : Unicode where
  lowercase c := [c.toLower]
  finalSigma _ _ := false
  decomposed letters := letters

theorem gradedAlike_paris :
    GradedAlike (plainLetters.platform march) (plainLetters.cloud plainCloud) capital " PARIS\n" := by
  refine (gradedAlike_iff_not_spelledApart march plainCloud (by decide) (by decide) ⟨?_, ?_⟩
    ⟨?_, ?_⟩).mpr ?_
  · unfold PlainEdges PlainEdge
    decide
  · intro before rest _
    rfl
  · unfold PlainEdges PlainEdge
    decide
  · intro before rest _
    rfl
  · intro apart
    exact apart.1 (by decide)

/-- An answer behind a byte order mark is correct to the function only. -/
theorem not_gradedAlike : ¬ ∀ (question : TriviaQuestion) (answerText : String),
    answerText ≠ "" → question.correctAnswer ≠ "" →
    GradedAlike (plainLetters.platform march) (plainLetters.cloud plainCloud) question answerText := by
  intro claim
  have alike := claim capital "\uFEFFParis" (by decide) (by decide)
  have same := (gradedAlike_iff_outcome (by decide) (by decide)).mp alike
  revert same
  decide

end DailyTrivia

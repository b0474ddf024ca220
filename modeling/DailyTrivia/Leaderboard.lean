import DailyTrivia.DocumentWrites
import DailyTrivia.Totals

/-!
The streak leaderboard: the streak documents added up by the username they hold, without the
totals that are zero, the longest streak first. A Swift dictionary has its keys in any order,
so an order is an argument here; Firestore returns the documents in any order as well.
-/
namespace DailyTrivia

open Documents Totals

structure LeaderboardEntry where
  username : String
  value : Int
  deriving DecidableEq

/-- The order a dictionary is iterated in. -/
structure IterationOrder where
  iterate : List (String × Int) → List (String × Int)
  perm : ∀ entries, (iterate entries).Perm entries

/-- `Int` has 64 bits. -/
def isInt (value : Int) : Bool := -2 ^ 63 ≤ value && value < 2 ^ 63

/-- What a streak document adds, and to whom. -/
def streakEntry (data : Doc) : String × Int :=
  ((data.string "username").getD "Unknown", (data.int "streak").getD 0)

/-- `.sorted { $0.value > $1.value }` -/
def sortedLeaderboard (entries : List LeaderboardEntry) : List LeaderboardEntry :=
  entries.insertionSort fun first second => first.value ≥ second.value

/-- `fetchStreakLeaderboard`, after the read; none if an addition traps. -/
def fetchStreakLeaderboard (platform : Platform) (order : IterationOrder) (snapshot : List Doc) :
    Option (List LeaderboardEntry) :=
  (totals platform.equal isInt [] (snapshot.map streakEntry)).map fun leaderboard =>
    sortedLeaderboard (((order.iterate leaderboard).map fun (username, value) =>
      ({ username, value } : LeaderboardEntry)).filter fun entry => entry.value ≠ 0)

/-! ## What a streak leaderboard is to be -/

/-- A value equals an `Int`, as an integer, as a double or as a boolean. -/
inductive EqualsInt : Value → Int → Prop where
  | int (number : Int) : EqualsInt (.int number) number
  | double {number : Int} : isInt number = true → EqualsInt (.double (.finite number)) number
  | bool (flag : Bool) : EqualsInt (.bool flag) flag.toInt

/-- What a streak document adds, and to whom, where `counts` says which numbers a value counts. -/
structure CountsAs (counts : Value → Int → Prop) (document : Doc) (entry : String × Int) :
    Prop where
  named : ∀ username, document "username" = some (.string username) → entry.1 = username
  unknown : (∀ username, document "username" ≠ some (.string username)) → entry.1 = "Unknown"
  counted : ∀ value number, document "streak" = some value → counts value number →
    entry.2 = number
  zero : (∀ value number, document "streak" = some value → ¬ counts value number) → entry.2 = 0

/-- Each username with a sum that is not zero has one entry, with that sum, and nobody else has
one. The longest streak comes first. -/
structure RanksStreaks (platform : Platform) (entries : List (String × Int))
    (leaderboard : List LeaderboardEntry) : Prop where
  once : ∀ username,
    (leaderboard.filter fun entry => platform.equal entry.username username).map
      LeaderboardEntry.value =
    if sumFor platform.equal entries username = 0 then []
    else [sumFor platform.equal entries username]
  ordered : leaderboard.Pairwise fun first second => first.value ≥ second.value

/-- Every collection of streak documents counts as some entries, and as long as no addition of them
traps, what is fetched ranks these, with the same values in whatever order documents and
dictionary come. -/
def FaithfulRanking (platform : Platform) (counts : Value → Int → Prop) : Prop :=
  ∀ snapshot : List Doc,
    (∃ entries, List.Forall₂ (CountsAs counts) snapshot entries) ∧
    ∀ entries, List.Forall₂ (CountsAs counts) snapshot entries →
      InRange platform.equal isInt entries → ∀ order,
      ∃ leaderboard, fetchStreakLeaderboard platform order snapshot = some leaderboard ∧
        RanksStreaks platform entries leaderboard ∧
        ∀ order' snapshot' leaderboard', snapshot.Perm snapshot' →
          fetchStreakLeaderboard platform order' snapshot' = some leaderboard' →
          leaderboard.map LeaderboardEntry.value = leaderboard'.map LeaderboardEntry.value

/-! ## What a streak document counts as -/

theorem asInt_eq_some {value : Value} {number : Int} :
    value.asInt = some number ↔ EqualsInt value number := by
  constructor
  · intro cast
    cases value with
    | int _ =>
      cases cast
      exact .int number
    | bool flag =>
      cases cast
      exact .bool flag
    | double double =>
      cases double with
      | finite value =>
        obtain ⟨⟨whole, least, most⟩, same⟩ := Option.ite_none_right_eq_some.mp cast
        obtain rfl := Option.some.inj same
        rw [← (Rat.den_eq_one_iff value).mp whole]
        exact .double (by simpa [isInt] using ⟨least, most⟩)
      | infinite _ | nan => cases cast
    | null | string _ | strings _ | timestamp => cases cast
  · intro equals
    cases equals with
    | int _ | bool _ => rfl
    | double inRange =>
      simpa [Value.asInt, Double.asInt, isInt] using inRange

theorem countsAs_streakEntry (document : Doc) :
    CountsAs EqualsInt document (streakEntry document) where
  named username held := by simp [streakEntry, string_eq_some.mpr held]
  unknown unnamed := by
    have none : document.string "username" = none :=
      Option.eq_none_iff_forall_ne_some.mpr fun username held =>
        unnamed username (string_eq_some.mp held)
    simp [streakEntry, none]
  counted value number held equals := by
    simp [streakEntry, Doc.int, held, asInt_eq_some.mpr equals]
  zero uncounted := by
    have none : document.int "streak" = none := by
      refine Option.eq_none_iff_forall_ne_some.mpr fun number cast => ?_
      obtain ⟨value, held, cast⟩ := Option.bind_eq_some_iff.mp cast
      exact uncounted value number held (asInt_eq_some.mp cast)
    simp [streakEntry, none]

/-- A document counts as one entry only. -/
theorem CountsAs.unique {counts : Value → Int → Prop} {document : Doc}
    {first second : String × Int} (counted : CountsAs counts document first)
    (counted' : CountsAs counts document second) : first = second := by
  refine Prod.ext ?_ ?_
  · by_cases named : ∃ username, document "username" = some (.string username)
    · obtain ⟨username, held⟩ := named
      rw [counted.named username held, counted'.named username held]
    · have unnamed := not_exists.mp named
      rw [counted.unknown unnamed, counted'.unknown unnamed]
  · by_cases valued : ∃ value number, document "streak" = some value ∧ counts value number
    · obtain ⟨value, number, held, counts⟩ := valued
      rw [counted.counted value number held counts, counted'.counted value number held counts]
    · have uncounted : ∀ value number, document "streak" = some value → ¬ counts value number :=
        fun value number held counts => valued ⟨value, number, held, counts⟩
      rw [counted.zero uncounted, counted'.zero uncounted]

theorem forall₂_countsAs_iff {snapshot : List Doc} {entries : List (String × Int)} :
    List.Forall₂ (CountsAs EqualsInt) snapshot entries ↔ entries = snapshot.map streakEntry := by
  constructor
  · intro counted
    induction counted with
    | nil => rfl
    | cons counted _ ih => rw [ih, counted.unique (countsAs_streakEntry _), List.map_cons]
  · rintro rfl
    exact List.forall₂_map_right_iff.mpr (List.forall₂_same.mpr fun document _ =>
      countsAs_streakEntry document)

/-! ## What is fetched ranks it -/

variable {platform : Platform} {order order' : IterationOrder} {snapshot snapshot' : List Doc}
variable {leaderboard leaderboard' : List LeaderboardEntry}

theorem sortedLeaderboard_perm (entries : List LeaderboardEntry) :
    (sortedLeaderboard entries).Perm entries :=
  List.perm_insertionSort _ entries

instance : Std.Total fun first second : LeaderboardEntry => first.value ≥ second.value :=
  ⟨fun first second => Int.le_total second.value first.value⟩

instance : IsTrans LeaderboardEntry fun first second => first.value ≥ second.value :=
  ⟨fun _ _ _ before after => Int.le_trans after before⟩

theorem sortedLeaderboard_ordered (entries : List LeaderboardEntry) :
    (sortedLeaderboard entries).Pairwise fun first second => first.value ≥ second.value :=
  List.pairwise_insertionSort _ entries

/-- The entries of a leaderboard are the totals, zeros apart. -/
theorem leaderboard_perm
    (fetched : fetchStreakLeaderboard platform order snapshot = some leaderboard) :
    ∃ dictionary, totals platform.equal isInt [] (snapshot.map streakEntry) = some dictionary ∧
      leaderboard.Perm ((dictionary.filter fun entry => entry.2 ≠ 0).map fun entry =>
        { username := entry.1, value := entry.2 }) := by
  obtain ⟨dictionary, added, rfl⟩ := Option.map_eq_some_iff.mp fetched
  refine ⟨dictionary, added, (sortedLeaderboard_perm _).trans ?_⟩
  rw [List.filter_map]
  exact ((order.perm dictionary).filter _).map _

theorem once_of_fetched (swift : Equivalence fun first second => platform.equal first second = true)
    (fetched : fetchStreakLeaderboard platform order snapshot = some leaderboard)
    (username : String) :
    (leaderboard.filter fun entry => platform.equal entry.username username).map
      LeaderboardEntry.value =
    if sumFor platform.equal (snapshot.map streakEntry) username = 0 then []
    else [sumFor platform.equal (snapshot.map streakEntry) username] := by
  obtain ⟨dictionary, added, perm⟩ := leaderboard_perm fetched
  have distinct := totals_distinct added .nil
  have sums := totals_sumFor swift added username
  have listed := filter_same swift distinct username
  rw [sums, sumFor_nil, Int.zero_add] at listed
  have values := (perm.filter fun entry => platform.equal entry.username username).map
    LeaderboardEntry.value
  rw [List.filter_map, List.map_map] at values
  -- a list of at most one value has no other order
  have same : ((leaderboard.filter fun entry => platform.equal entry.username username).map
      LeaderboardEntry.value).Perm
        (if sumFor platform.equal (snapshot.map streakEntry) username = 0 then []
        else [sumFor platform.equal (snapshot.map streakEntry) username]) := by
    rw [← listed]
    exact values
  split at same
  · rw [if_pos ‹_›]
    exact List.perm_nil.mp same
  · rw [if_neg ‹_›]
    exact List.perm_singleton.mp same

theorem ordered_of_fetched
    (fetched : fetchStreakLeaderboard platform order snapshot = some leaderboard) :
    (leaderboard.map LeaderboardEntry.value).Pairwise (· ≥ ·) := by
  obtain ⟨_, _, rfl⟩ := Option.map_eq_some_iff.mp fetched
  exact List.pairwise_map.mpr (sortedLeaderboard_ordered _)

/-- The values do not depend on the order of the documents or of the dictionary. -/
theorem values_of_fetched
    (swift : Equivalence fun first second => platform.equal first second = true)
    (perm : snapshot.Perm snapshot')
    (fetched : fetchStreakLeaderboard platform order snapshot = some leaderboard)
    (fetched' : fetchStreakLeaderboard platform order' snapshot' = some leaderboard') :
    leaderboard.map LeaderboardEntry.value = leaderboard'.map LeaderboardEntry.value := by
  obtain ⟨dictionary, added, listed⟩ := leaderboard_perm fetched
  obtain ⟨dictionary', added', listed'⟩ := leaderboard_perm fetched'
  have sums : ∀ username, sumFor platform.equal dictionary username =
      sumFor platform.equal dictionary' username := by
    intro username
    rw [totals_sumFor swift added, totals_sumFor swift added', sumFor_perm (perm.map streakEntry)]
  have values := values_perm swift (totals_distinct added .nil) (totals_distinct added' .nil) sums
  have first := listed.map LeaderboardEntry.value
  have second := listed'.map LeaderboardEntry.value
  rw [List.map_map] at first second
  have perm : (leaderboard.map LeaderboardEntry.value).Perm
      (leaderboard'.map LeaderboardEntry.value) := first.trans (values.trans second.symm)
  exact perm.eq_of_sortedGE (ordered_of_fetched fetched).sortedGE
    (ordered_of_fetched fetched').sortedGE

/-- Streaks whose running sums stay in range can be fetched. -/
theorem fetched_of_inRange
    (swift : Equivalence fun first second => platform.equal first second = true)
    (inRange : InRange platform.equal isInt (snapshot.map streakEntry)) (order : IterationOrder) :
    ∃ leaderboard, fetchStreakLeaderboard platform order snapshot = some leaderboard := by
  have possible : (totals platform.equal isInt [] (snapshot.map streakEntry)).isSome = true :=
    totals_isSome swift .nil fun before rest key split => by
      simpa using inRange before rest key split
  exact Option.isSome_iff_exists.mp (by simpa [fetchStreakLeaderboard] using possible)

/-- The streak leaderboard is a faithful ranking, where a streak that equals an `Int` counts that and
any other counts nothing. -/
theorem fetchStreakLeaderboard_ranks (platform : Platform)
    (swift : Equivalence fun first second => platform.equal first second = true) :
    FaithfulRanking platform EqualsInt := by
  intro snapshot
  refine ⟨⟨_, forall₂_countsAs_iff.mpr rfl⟩, fun entries counted inRange order => ?_⟩
  obtain rfl := forall₂_countsAs_iff.mp counted
  obtain ⟨leaderboard, fetched⟩ := fetched_of_inRange swift inRange order
  refine ⟨leaderboard, fetched, ⟨once_of_fetched swift fetched, ?_⟩, ?_⟩
  · exact List.pairwise_map.mp (ordered_of_fetched fetched)
  · intro order' snapshot' leaderboard' perm fetched'
    exact values_of_fetched swift perm fetched fetched'

theorem equal_march_of_ne {first second : String} (other : first ≠ second) :
    march.equal first second = false :=
  beq_eq_false_iff_ne.mpr other

theorem equivalence_march :
    Equivalence fun first second => march.equal first second = true where
  refl first := beq_self_eq_true first
  symm same := beq_iff_eq.mpr (beq_iff_eq.mp same).symm
  trans first second := beq_iff_eq.mpr ((beq_iff_eq.mp first).trans (beq_iff_eq.mp second))

/-- Streak documents with a username twice, and with fields missing and of other types. -/
def roughStreaks : List Doc :=
  [streakData "annie" 3, fields [("streak", .int 2)], streakData "ben" 5, streakData "annie" 4,
    fields [("username", .int 7), ("streak", .int (-2))], fields [("username", .string "carl")],
    fields [("username", .string "dora"), ("streak", .double (.finite 5))],
    fields [("username", .string "dora"), ("streak", .double (.finite (mkRat 5 2)))],
    fields [("username", .string "ed"), ("streak", .string "9")],
    fields [("username", .null), ("streak", .bool false)]]

theorem inRange_roughStreaks : InRange march.equal isInt (roughStreaks.map streakEntry) :=
  @inRange_of_small _ march.equal isInt _ (2 ^ 62) (by decide) fun value small => by
    simp only [isInt, Bool.and_eq_true, decide_eq_true_eq]
    omega

theorem fetchStreakLeaderboard_roughStreaks :
    ∃ leaderboard,
      fetchStreakLeaderboard march ⟨List.reverse, List.reverse_perm⟩ roughStreaks = some leaderboard ∧
      RanksStreaks march [("annie", 3), ("Unknown", 2), ("ben", 5), ("annie", 4), ("Unknown", -2),
        ("carl", 0), ("dora", 5), ("dora", 0), ("ed", 0), ("Unknown", 0)] leaderboard ∧
      ∀ order' snapshot' leaderboard', roughStreaks.Perm snapshot' →
        fetchStreakLeaderboard march order' snapshot' = some leaderboard' →
        leaderboard.map LeaderboardEntry.value = leaderboard'.map LeaderboardEntry.value :=
  (fetchStreakLeaderboard_ranks march equivalence_march roughStreaks).2 _
    (forall₂_countsAs_iff.mpr (by decide)) inRange_roughStreaks _

example : fetchStreakLeaderboard march ⟨List.reverse, List.reverse_perm⟩ roughStreaks =
    some [⟨"annie", 7⟩, ⟨"dora", 5⟩, ⟨"ben", 5⟩] := by decide

/-- Only an integer is a number to the ranking that is asked for, but the cast takes `true` for 1. -/
theorem not_faithfulRanking : ¬ FaithfulRanking march fun value number => value = .int number := by
  intro faithful
  have counted : CountsAs (fun value number => value = .int number)
      (fields [("username", .string "annie"), ("streak", .bool true)]) ("annie", 0) := {
    named := fun username held => by simpa [fields] using held
    unknown := fun unnamed => absurd rfl (unnamed "annie")
    counted := fun value number held counts => by
      subst counts
      simp [fields, List.lookup_cons] at held
    zero := fun _ => rfl }
  obtain ⟨leaderboard, fetched, ranks, _⟩ := (faithful [_]).2 [_] (.cons counted .nil)
    (@inRange_of_small _ march.equal isInt _ 0 (by decide) fun value small => by
      obtain rfl := Int.natAbs_eq_zero.mp (Nat.le_zero.mp small)
      decide) ⟨id, fun _ => .refl _⟩
  have listed : leaderboard = [⟨"annie", 1⟩] := Option.some.inj (fetched.symm.trans (by decide))
  subst listed
  exact absurd (ranks.once "annie") (by decide)

end DailyTrivia

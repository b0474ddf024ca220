import Mathlib.Algebra.BigOperators.Group.List.Basic
import Mathlib.Algebra.Ring.Int.Defs
import Mathlib.Algebra.Ring.Nat
import Mathlib.Data.List.Sort

/-!
Adding up entries by key, in a dictionary whose keys are compared by `same`.

`add` finds the key and adds to its total, if the new total fits. What `totals` makes of some
entries holds each key once, with the sum of its entries, whatever their order. Which spelling
of a key it holds does depend on the order, so two results are compared by their values.
-/
namespace Totals

variable {K : Type} (same : K → K → Bool) (fits : Int → Bool)

/-- `dictionary[key, default: 0] += value`, where an overflow traps. -/
def add (key : K) (value : Int) : List (K × Int) → Option (List (K × Int))
  | [] => if fits value then some [(key, value)] else none
  | (listed, total) :: rest =>
    if same listed key then
      if fits (total + value) then some ((listed, total + value) :: rest) else none
    else (add key value rest).map ((listed, total) :: ·)

def totals : List (K × Int) → List (K × Int) → Option (List (K × Int))
  | dictionary, [] => some dictionary
  | dictionary, (key, value) :: rest => (add same fits key value dictionary).bind (totals · rest)

/-- `dictionary[key] = value` -/
def assign (key : K) (value : Int) : List (K × Int) → List (K × Int)
  | [] => [(key, value)]
  | (listed, total) :: rest =>
    if same listed key then (listed, value) :: rest else (listed, total) :: assign key value rest

/-- The sum of the values under a key. -/
def sumFor (entries : List (K × Int)) (key : K) : Int :=
  ((entries.filter fun entry => same entry.1 key).map Prod.snd).sum

/-- No key occurs twice. -/
def NoRepeats (entries : List (K × Int)) : Prop :=
  entries.Pairwise fun first second => same first.1 second.1 = false

/-- No running sum leaves the range. -/
def InRange (entries : List (K × Int)) : Prop :=
  ∀ before rest key, entries = before ++ rest → fits (sumFor same before key) = true

variable {same fits} {key listed : K} {value total : Int}
variable {entries rest dictionary dictionary' : List (K × Int)}

@[simp] theorem sumFor_nil : sumFor same [] key = 0 := rfl

theorem sumFor_cons {first : K × Int} : sumFor same (first :: rest) key =
    (if same first.1 key then first.2 else 0) + sumFor same rest key := by
  cases found : same first.1 key <;> simp [sumFor, found]

theorem sumFor_append {more : List (K × Int)} :
    sumFor same (entries ++ more) key = sumFor same entries key + sumFor same more key := by
  simp [sumFor]

theorem sumFor_perm {other : List (K × Int)} (perm : entries.Perm other) :
    sumFor same entries key = sumFor same other key :=
  ((perm.filter _).map _).sum_eq

/-- A key that no entry has sums to nothing. -/
theorem sumFor_eq_zero (absent : ∀ entry ∈ entries, same entry.1 key = false) :
    sumFor same entries key = 0 := by
  have none : (entries.filter fun entry => same entry.1 key) = [] := by
    simpa [List.filter_eq_nil_iff] using absent
  simp [sumFor, none]

theorem natAbs_sumFor_le (entries : List (K × Int)) (key : K) :
    (sumFor same entries key).natAbs ≤ (entries.map fun entry => entry.2.natAbs).sum := by
  induction entries with
  | nil => simp
  | cons first rest ih =>
    rw [sumFor_cons, List.map_cons, List.sum_cons]
    split <;> omega

/-- Small values stay in range, however they are added up. -/
theorem inRange_of_small {bound : ℕ}
    (small : (entries.map fun entry => entry.2.natAbs).sum ≤ bound)
    (fitting : ∀ value : Int, value.natAbs ≤ bound → fits value = true) :
    InRange same fits entries := by
  intro before rest key split
  refine fitting _ ((natAbs_sumFor_le before key).trans (le_trans ?_ small))
  rw [split, List.map_append, List.sum_append]
  exact Nat.le_add_right _ _

/-- What an addition does: it changes the total of the key, or lists the key last. -/
inductive Added (same : K → K → Bool) (key : K) (value : Int) :
    List (K × Int) → List (K × Int) → Prop where
  | changed {before after : List (K × Int)} {listed : K} {total : Int} :
      same listed key = true →
      Added same key value (before ++ (listed, total) :: after)
        (before ++ (listed, total + value) :: after)
  | listed {dictionary : List (K × Int)} : (∀ entry ∈ dictionary, same entry.1 key = false) →
      Added same key value dictionary (dictionary ++ [(key, value)])

theorem added_of_add (added : add same fits key value dictionary = some dictionary') :
    Added same key value dictionary dictionary' := by
  induction dictionary generalizing dictionary' with
  | nil =>
    obtain ⟨_, ⟨⟩⟩ := Option.ite_none_right_eq_some.mp added
    exact .listed nofun
  | cons first rest ih =>
    obtain ⟨listed, total⟩ := first
    simp only [add] at added
    split at added
    · rename_i equal
      obtain ⟨_, ⟨⟩⟩ := Option.ite_none_right_eq_some.mp added
      exact @Added.changed _ same key value [] rest _ _ equal
    · rename_i different
      obtain ⟨longer, adding, rfl⟩ := Option.map_eq_some_iff.mp added
      cases ih adding with
      | @changed before after listed' total' equal =>
        exact @Added.changed _ same key value ((listed, total) :: before) after _ _ equal
      | listed unlisted =>
        refine @Added.listed _ same key value (_ :: rest) fun entry present => ?_
        rcases List.mem_cons.mp present with rfl | later
        · simpa using different
        · exact unlisted entry later

/-! ## Every total is the sum of its entries -/

theorem Added.distinct (added : Added same key value dictionary dictionary')
    (distinct : NoRepeats same dictionary) : NoRepeats same dictionary' := by
  cases added with
  | @changed before after listed total equal =>
    obtain ⟨before, after, across⟩ := List.pairwise_append.mp distinct
    obtain ⟨apart, after⟩ := List.pairwise_cons.mp after
    refine List.pairwise_append.mpr ⟨before, List.pairwise_cons.mpr ⟨apart, after⟩, ?_⟩
    intro first earlier second later
    rcases List.mem_cons.mp later with rfl | later
    · exact across first earlier (listed, total) List.mem_cons_self
    · exact across first earlier second (List.mem_cons_of_mem _ later)
  | listed unlisted =>
    refine List.pairwise_append.mpr ⟨distinct, List.pairwise_singleton _ _, ?_⟩
    intro first earlier second later
    obtain rfl := List.mem_singleton.mp later
    exact unlisted first earlier

theorem totals_distinct (added : totals same fits dictionary entries = some dictionary')
    (distinct : NoRepeats same dictionary) : NoRepeats same dictionary' := by
  induction entries generalizing dictionary with
  | nil =>
    cases added
    exact distinct
  | cons first rest ih =>
    obtain ⟨next, first, later⟩ := Option.bind_eq_some_iff.mp added
    exact ih later ((added_of_add first).distinct distinct)

/-! ## Assignments -/

/-- A key that is not listed is listed last. -/
theorem assign_of_unlisted (unlisted : ∀ entry ∈ dictionary, same entry.1 key = false) :
    assign same key value dictionary = dictionary ++ [(key, value)] := by
  induction dictionary with
  | nil => rfl
  | cons first rest ih =>
    have other := unlisted first List.mem_cons_self
    have later := ih fun entry present => unlisted entry (List.mem_cons_of_mem _ present)
    rw [assign, if_neg (Bool.eq_false_iff.mp other), later, List.cons_append]

/-- Assignments to different keys list them all. -/
theorem foldl_assign (distinct : NoRepeats same (dictionary ++ entries)) :
    entries.foldl (fun dictionary entry => assign same entry.1 entry.2 dictionary) dictionary =
      dictionary ++ entries := by
  induction entries generalizing dictionary with
  | nil => simp
  | cons first rest ih =>
    have unlisted : ∀ entry ∈ dictionary, same entry.1 first.1 = false := fun entry present =>
      (List.pairwise_append.mp distinct).2.2 entry present first List.mem_cons_self
    have distinct' : NoRepeats same ((dictionary ++ [first]) ++ rest) := by simpa using distinct
    rw [List.foldl_cons, assign_of_unlisted unlisted, ih distinct', List.append_assoc]
    rfl

/-- A key that is not in the dictionary is added last. -/
theorem add_of_unlisted (fitting : fits value = true)
    (unlisted : ∀ entry ∈ dictionary, same entry.1 key = false) :
    add same fits key value dictionary = some (dictionary ++ [(key, value)]) := by
  induction dictionary with
  | nil => simp [add, fitting]
  | cons first rest ih =>
    have other := unlisted first List.mem_cons_self
    have later := ih fun entry present => unlisted entry (List.mem_cons_of_mem _ present)
    rw [add, if_neg (Bool.eq_false_iff.mp other), later]
    rfl

/-- Values under different keys are totals already. -/
theorem totals_of_noRepeats (distinct : NoRepeats same (dictionary ++ entries))
    (fitting : ∀ entry ∈ entries, fits entry.2 = true) :
    totals same fits dictionary entries = some (dictionary ++ entries) := by
  induction entries generalizing dictionary with
  | nil => simp [totals]
  | cons first rest ih =>
    have unlisted : ∀ entry ∈ dictionary, same entry.1 first.1 = false := fun entry present =>
      (List.pairwise_append.mp distinct).2.2 entry present first List.mem_cons_self
    have distinct' : NoRepeats same ((dictionary ++ [first]) ++ rest) := by simpa using distinct
    have added := add_of_unlisted (fitting first List.mem_cons_self) unlisted
    have later := ih distinct' fun entry listed => fitting entry (List.mem_cons_of_mem _ listed)
    simp only [totals, added, Option.bind_some, later, List.append_assoc, List.singleton_append]

/-! ## Sums -/

section Equivalence

variable (equivalent : Equivalence fun first second => same first second = true)

include equivalent

theorem same_comm (first second : K) : same first second = same second first :=
  Bool.eq_iff_iff.mpr ⟨equivalent.symm, equivalent.symm⟩

/-- Keys that are the same are the same as any third key. -/
theorem same_congr (equal : same listed key = true) (other : K) :
    same listed other = same key other :=
  Bool.eq_iff_iff.mpr
    ⟨equivalent.trans (equivalent.symm equal), equivalent.trans equal⟩

theorem sumFor_congr (equal : same listed key = true) :
    sumFor same entries listed = sumFor same entries key := by
  refine congrArg (fun entries : List (K × Int) => (entries.map Prod.snd).sum)
    (List.filter_congr fun entry _ => ?_)
  rw [same_comm equivalent entry.1, same_comm equivalent entry.1]
  exact same_congr equivalent equal entry.1

theorem Added.sumFor (added : Added same key value dictionary dictionary') (other : K) :
    sumFor same dictionary' other =
      sumFor same dictionary other + if same key other then value else 0 := by
  cases added with
  | changed equal =>
    have agree := same_congr equivalent equal other
    simp only [sumFor_append, sumFor_cons, agree]
    split <;> omega
  | listed unlisted => simp [sumFor_append, sumFor_cons]

/-- In a dictionary, the sum of a key is its total. -/
theorem sumFor_self (distinct : NoRepeats same dictionary) {entry : K × Int}
    (present : entry ∈ dictionary) : sumFor same dictionary entry.1 = entry.2 := by
  obtain ⟨before, after, rfl⟩ := List.append_of_mem present
  obtain ⟨_, distinct, across⟩ := List.pairwise_append.mp distinct
  have apart := (List.pairwise_cons.mp distinct).1
  have earlier : Totals.sumFor same before entry.1 = 0 :=
    sumFor_eq_zero fun other early => across other early entry List.mem_cons_self
  have later : Totals.sumFor same after entry.1 = 0 := by
    refine sumFor_eq_zero fun other late => ?_
    rw [same_comm equivalent]
    exact apart other late
  have self : same entry.1 entry.1 = true := equivalent.refl entry.1
  simp [sumFor_append, sumFor_cons, earlier, later, self]

/-- An addition is possible when the sum of its key fits. -/
theorem add_isSome (distinct : NoRepeats same dictionary)
    (inRange : fits (sumFor same dictionary key + value) = true) :
    (add same fits key value dictionary).isSome = true := by
  induction dictionary with
  | nil =>
    have fitting : fits value = true := by simpa using inRange
    simp [add, fitting]
  | cons first rest ih =>
    obtain ⟨listed, total⟩ := first
    cases found : same listed key with
    | true =>
      have self := sumFor_self equivalent distinct List.mem_cons_self
      have fitting : fits (total + value) = true := by
        rwa [← sumFor_congr equivalent found, self] at inRange
      simp [add, found, fitting]
    | false =>
      have later := ih (List.pairwise_cons.mp distinct).2
        (by simpa [sumFor_cons, found] using inRange)
      simpa [add, found] using later

/-- The sums of a dictionary after some entries are the sums before and theirs. -/
theorem totals_sumFor (added : totals same fits dictionary entries = some dictionary') (key : K) :
    sumFor same dictionary' key = sumFor same dictionary key + sumFor same entries key := by
  induction entries generalizing dictionary with
  | nil =>
    cases added
    simp
  | cons first rest ih =>
    obtain ⟨next, first, later⟩ := Option.bind_eq_some_iff.mp added
    rw [ih later, (added_of_add first).sumFor equivalent, sumFor_cons]
    omega

/-- Entries whose running sums stay in range can be added up. -/
theorem totals_isSome (distinct : NoRepeats same dictionary)
    (inRange : ∀ before rest key, entries = before ++ rest →
      fits (sumFor same dictionary key + sumFor same before key) = true) :
    (totals same fits dictionary entries).isSome = true := by
  induction entries generalizing dictionary with
  | nil => rfl
  | cons first rest ih =>
    obtain ⟨key, value⟩ := first
    have fitting := inRange [(key, value)] rest key rfl
    have self : same key key = true := equivalent.refl key
    have possible := add_isSome equivalent distinct (by simpa [sumFor_cons, self] using fitting)
    obtain ⟨next, added⟩ := Option.isSome_iff_exists.mp possible
    simp only [totals, added, Option.bind_some]
    refine ih ((added_of_add added).distinct distinct) fun before after other split => ?_
    have later := inRange ((key, value) :: before) after other (by rw [split]; rfl)
    rw [sumFor_cons] at later
    rw [(added_of_add added).sumFor equivalent, Int.add_assoc]
    exact later

/-! ## The values do not depend on the order -/

/-- A key whose sum is not zero is in the dictionary, once. -/
theorem filter_same (distinct : NoRepeats same dictionary) (key : K) :
    ((dictionary.filter fun entry => entry.2 ≠ 0).filter fun entry => same entry.1 key).map
      Prod.snd = if sumFor same dictionary key = 0 then [] else [sumFor same dictionary key] := by
  induction dictionary with
  | nil => rfl
  | cons first rest ih =>
    obtain ⟨listed, total⟩ := first
    obtain ⟨apart, distinct'⟩ := List.pairwise_cons.mp distinct
    have later := ih distinct'
    cases found : same listed key with
    | true =>
      have others : sumFor same rest key = 0 := by
        refine sumFor_eq_zero fun entry present => ?_
        rw [same_comm equivalent, ← same_congr equivalent found]
        exact apart entry present
      rw [others, if_pos rfl] at later
      rw [sumFor_cons, others, found, if_pos rfl, Int.add_zero]
      by_cases zero : total = 0
      · simpa [zero] using later
      · simpa [zero, found] using later
    | false =>
      have skipped : sumFor same ((listed, total) :: rest) key = sumFor same rest key := by
        simp [sumFor_cons, found]
      rw [skipped, ← later]
      by_cases zero : total = 0
      · simp [zero]
      · simp [zero, found]

/-- The dictionary without an entry has its sums, but for that entry's key. -/
theorem sumFor_erase {entry : K × Int} {before after : List (K × Int)}
    (distinct : NoRepeats same (before ++ entry :: after)) (key : K) :
    sumFor same (before ++ after) key =
      if same entry.1 key then 0 else sumFor same (before ++ entry :: after) key := by
  cases found : same entry.1 key with
  | true =>
    obtain ⟨_, later, across⟩ := List.pairwise_append.mp distinct
    have apart := (List.pairwise_cons.mp later).1
    refine (sumFor_eq_zero fun other present => ?_).trans (if_pos rfl).symm
    rw [same_comm equivalent, ← same_congr equivalent found]
    rcases List.mem_append.mp present with early | late
    · rw [same_comm equivalent]
      exact across other early entry List.mem_cons_self
    · exact apart other late
  | false => simp [sumFor_append, sumFor_cons, found]

/-- Dictionaries with the same sums have the same values, zeros apart. -/
theorem values_perm {other : List (K × Int)} (distinct : NoRepeats same dictionary)
    (distinct' : NoRepeats same other)
    (sums : ∀ key, sumFor same dictionary key = sumFor same other key) :
    ((dictionary.filter fun entry => entry.2 ≠ 0).map Prod.snd).Perm
      ((other.filter fun entry => entry.2 ≠ 0).map Prod.snd) := by
  induction dictionary generalizing other with
  | nil =>
    have empty : (other.filter fun entry => entry.2 ≠ 0) = [] := by
      refine List.filter_eq_nil_iff.mpr fun entry present => ?_
      have zero := sumFor_self equivalent distinct' present
      rw [← sums, sumFor_nil] at zero
      simp [← zero]
    rw [empty]
    exact .refl _
  | cons first rest ih =>
    have self := sumFor_self equivalent distinct List.mem_cons_self
    have fewer := fun key => @sumFor_erase _ same equivalent first [] rest distinct key
    simp only [List.nil_append] at fewer
    by_cases zero : first.2 = 0
    · -- an entry of zero changes no sum
      have later := ih (List.pairwise_cons.mp distinct).2 distinct' fun key => by
        rw [← sums, sumFor_cons, zero]
        split <;> omega
      simpa [zero] using later
    · -- the other dictionary has the key as well, once
      have listed : ∃ entry ∈ other, same entry.1 first.1 = true := by
        by_contra absent
        refine zero (self.symm.trans ((sums first.1).trans (sumFor_eq_zero fun entry present => ?_)))
        exact Bool.eq_false_iff.mpr fun found => absent ⟨entry, present, found⟩
      obtain ⟨entry, present, equal⟩ := listed
      have value : entry.2 = first.2 := by
        rw [← sumFor_self equivalent distinct' present, ← self, sums]
        exact sumFor_congr equivalent equal
      obtain ⟨before, after, rfl⟩ := List.append_of_mem present
      have rest_distinct : NoRepeats same (before ++ after) :=
        distinct'.sublist (List.Sublist.append_left (List.sublist_cons_self _ _) _)
      have later := ih (List.pairwise_cons.mp distinct).2 rest_distinct fun key => by
        rw [fewer key, sumFor_erase equivalent distinct' key, same_congr equivalent equal key, sums]
      have moved : ((before ++ entry :: after).filter fun entry => entry.2 ≠ 0).Perm
          (entry :: (before ++ after).filter fun entry => entry.2 ≠ 0) := by
        simp [value, zero]
      have kept : (first :: rest).filter (fun entry => entry.2 ≠ 0) =
          first :: rest.filter fun entry => entry.2 ≠ 0 := by simp [zero]
      rw [kept]
      refine .trans ?_ (moved.map Prod.snd).symm
      rw [List.map_cons, List.map_cons, value]
      exact later.cons first.2

end Equivalence

end Totals

import Mathlib.Algebra.Ring.Nat
import Mathlib.Data.Fin.Basic
import Mathlib.Data.Nat.Log

/-!
Decimal numerals of a fixed width, and of at least a width, as lists of digits.

Numerals of one width are ordered as the numbers they stand for, and a numeral is read back as
its number, however wide it is. `append_lt_append` orders what is written in several numerals.
-/
namespace Numerals

/-- The last digits of a number, the most significant first. -/
def pad : ℕ → ℕ → List (Fin 10)
  | 0, _ => []
  | width + 1, n => pad width (n / 10) ++ [Fin.ofNat 10 n]

/-- A number in as many digits as it takes, but not less than a width. -/
def numeral (width n : ℕ) : List (Fin 10) := pad (max width (Nat.log 10 n + 1)) n

/-- The number that digits stand for. -/
def value (digits : List (Fin 10)) : ℕ := digits.foldl (fun n digit => 10 * n + digit.val) 0

variable {α : Type} {width m n : ℕ}

@[simp] theorem length_pad (width n : ℕ) : (pad width n).length = width := by
  induction width generalizing n with
  | zero => rfl
  | succ width ih => simp [pad, ih]

theorem value_concat (digits : List (Fin 10)) (digit : Fin 10) :
    value (digits ++ [digit]) = 10 * value digits + digit.val := by
  simp [value]

/-- A number that fits is read back. -/
theorem value_pad (fits : n < 10 ^ width) : value (pad width n) = n := by
  induction width generalizing n with
  | zero =>
    rw [Nat.pow_zero] at fits
    simp only [pad, value, List.foldl_nil]
    omega
  | succ width ih =>
    rw [Nat.pow_succ] at fits
    rw [pad, value_concat, ih (by omega)]
    simp only [Fin.val_ofNat]
    omega

theorem value_numeral (width n : ℕ) : value (numeral width n) = n := by
  apply value_pad
  have enough : n < 10 ^ (Nat.log 10 n + 1) := Nat.lt_pow_succ_log_self (by decide) n
  exact enough.trans_le (Nat.pow_le_pow_right (by decide) (Nat.le_max_right _ _))

theorem numeral_inj (width : ℕ) {m n : ℕ} : numeral width m = numeral width n ↔ m = n := by
  constructor
  · intro same
    rw [← value_numeral width m, same, value_numeral]
  · rintro rfl
    rfl

/-- A number that fits is not written wider. -/
theorem numeral_of_lt (some_width : width ≠ 0) (fits : n < 10 ^ width) :
    numeral width n = pad width n := by
  have short := Nat.log_lt_of_lt_pow' some_width fits
  rw [numeral, Nat.max_eq_left short]

/-- What is written first decides, unless it is the same. -/
theorem append_lt_append [LT α] {first first' rest rest' : List α}
    (same : first.length = first'.length) :
    first ++ rest < first' ++ rest' ↔
      first < first' ∨ (first = first' ∧ rest < rest') := by
  induction first generalizing first' with
  | nil =>
    obtain rfl := List.length_eq_zero_iff.mp same.symm
    simp
  | cons a first ih =>
    cases first' with
    | nil => cases same
    | cons b first' =>
      simp only [List.cons_append, List.cons_lt_cons_iff, ih (Nat.succ.inj same), List.cons.injEq]
      tauto

/-- Numerals of one width are in the order of the numbers. -/
theorem pad_lt_pad (fits : n < 10 ^ width) (less : m < n) : pad width m < pad width n := by
  induction width generalizing m n with
  | zero =>
    rw [Nat.pow_zero] at fits
    omega
  | succ width ih =>
    rw [Nat.pow_succ] at fits
    rw [pad, pad, append_lt_append (by simp)]
    by_cases tens : m / 10 < n / 10
    · exact .inl (ih (by omega) tens)
    · have same : m / 10 = n / 10 := by omega
      refine .inr ⟨by rw [same], ?_⟩
      simp only [List.cons_lt_cons_iff, Fin.lt_def, Fin.val_ofNat]
      omega

end Numerals

import Mathlib.Data.List.Basic

/-!
Texts cut into segments at a separator, where empty segments are dropped. A text is its own only
segment exactly when it is nonempty and holds no separator, and a change of letters that keeps
the separator apart changes the segments letter by letter.
-/
namespace Segments

variable {α β : Type} [DecidableEq α] [DecidableEq β] {sep : α} {text part : List α}

/-- The nonempty parts of a text between separators. -/
def segments (sep : α) (text : List α) : List (List α) := (text.splitOn sep).filter (· ≠ [])

/-- Two separators stand next to each other. -/
def Doubled (sep : α) (text : List α) : Prop := [sep, sep] <:+: text

instance : Decidable (Doubled sep text) := inferInstanceAs (Decidable ([sep, sep] <:+: text))

/-- No part between separators holds one. -/
theorem not_mem_of_part (between : part ∈ text.splitOn sep) : sep ∉ part := by
  induction text generalizing part with
  | nil =>
    rw [List.splitOn_nil, List.mem_singleton] at between
    simp [between]
  | cons first rest ih =>
    rw [List.splitOn_cons_eq_if_modifyHead] at between
    obtain ⟨head, tail, parts⟩ := List.exists_cons_of_ne_nil (List.splitOn_ne_nil sep rest)
    have inside : ∀ part ∈ head :: tail, sep ∉ part := fun part listed => ih (parts ▸ listed)
    split at between
    · rcases List.mem_cons.mp between with rfl | later
      · exact List.not_mem_nil
      · exact ih later
    · rename_i other
      rw [parts, List.modifyHead_cons, List.mem_cons] at between
      rcases between with rfl | later
      · have apart : sep ≠ first := fun same => other (by simp [same])
        simpa [apart] using inside head List.mem_cons_self
      · exact inside part (List.mem_cons_of_mem _ later)

theorem not_mem_of_segment (segment : part ∈ segments sep text) : sep ∉ part :=
  not_mem_of_part (List.mem_of_mem_filter segment)

/-- A nonempty text without a separator is one segment. -/
theorem segments_of_not_mem (absent : sep ∉ text) (nonempty : text ≠ []) :
    segments sep text = [text] := by
  simp [segments, List.splitOn_eq_singleton absent, nonempty]

omit [DecidableEq α] in
theorem not_doubled_of_not_mem (absent : sep ∉ text) : ¬ Doubled sep text :=
  fun doubled => absent (doubled.subset List.mem_cons_self)

/-! ## Changing letters -/

section Map

variable {sep' : β} {change : α → β} (keeps : ∀ letter, change letter = sep' ↔ letter = sep)

include keeps

theorem splitOn_map (text : List α) :
    (text.map change).splitOn sep' = (text.splitOn sep).map (List.map change) := by
  induction text with
  | nil => simp
  | cons first rest ih =>
    rw [List.map_cons, List.splitOn_cons_eq_if_modifyHead, List.splitOn_cons_eq_if_modifyHead, ih]
    obtain ⟨head, tail, parts⟩ := List.exists_cons_of_ne_nil (List.splitOn_ne_nil sep rest)
    by_cases cut : first = sep
    · simp [cut, (keeps sep).mpr rfl]
    · have uncut : change first ≠ sep' := fun same => cut ((keeps first).mp same)
      simp [cut, uncut, parts]

theorem segments_map (text : List α) :
    segments sep' (text.map change) = (segments sep text).map (List.map change) := by
  rw [segments, splitOn_map keeps, List.filter_map]
  refine congrArg _ (List.filter_congr fun part _ => ?_)
  simp

omit [DecidableEq α] [DecidableEq β] in
theorem doubled_map (text : List α) : Doubled sep' (text.map change) ↔ Doubled sep text := by
  unfold Doubled
  rw [List.infix_map_iff]
  constructor
  · rintro ⟨pair, inside, doubled⟩
    obtain ⟨first, rest, rfl, same, doubled⟩ := List.map_eq_cons_iff.mp doubled.symm
    obtain ⟨second, rest, rfl, same', doubled⟩ := List.map_eq_cons_iff.mp doubled
    obtain rfl := List.map_eq_nil_iff.mp doubled
    rwa [(keeps first).mp same, (keeps second).mp same'] at inside
  · intro inside
    exact ⟨[sep, sep], inside, by simp [(keeps sep).mpr rfl]⟩

end Map

end Segments

import Mathlib.Tactic.Common
import BatchCompiler.Text.Word

/-!
# Classes of characters

There are few blanks, and none of them can stand in a name or in a numeral.

## Main definitions

* `CodePointRanges.points` — the code points of some ranges, one by one

## Main statements

* `isBlank_of_startsName`, `isBlank_of_continuesName`, `isBlank_of_continuesNumeral` — what is part of a
  name or numeral is no blank
-/

namespace BatchCompiler.Text

/-- **The code points of some ranges**, one by one. -/
def CodePointRanges.points (ranges : CodePointRanges) : List Nat :=
  ranges.flatMap fun (low, high) => List.range' low (high + 1 - low)

theorem CodePointRanges.mem_points_of_contains {ranges : CodePointRanges} {n : Nat}
    (h : ranges.contains n = true) : n ∈ ranges.points := by
  induction ranges with
  | nil => cases h
  | cons range rest ih =>
      obtain ⟨low, high⟩ := range
      rw [CodePointRanges.contains] at h
      show n ∈ List.range' low (high + 1 - low) ++ points rest
      split at h
      · cases h
      · rw [List.mem_append]
        split at h
        · left
          rw [List.mem_range'_1]
          omega
        · exact .inr (ih h)

/-- **What holds of every blank** can be checked on the code points. -/
theorem of_isBlank {P : Nat → Prop} (h : ∀ n ∈ blankRanges.points, P n) {c : Char}
    (hc : isBlank c = true) : P c.toNat :=
  h c.toNat (CodePointRanges.mem_points_of_contains hc)

variable {c : Char}

/-- No blank is a letter, a number or an underscore. -/
theorem not_name_of_isBlank (h : isBlank c = true) :
    isLetter c = false ∧ isNumber c = false ∧ isDecimalDigit c = false ∧ c ≠ '_' := by
  have hblanks : ∀ n ∈ blankRanges.points, letterRanges.contains n = false ∧
      numberRanges.contains n = false ∧ decimalDigitRanges.contains n = false ∧ n ≠ '_'.toNat := by
    decide +kernel
  obtain ⟨hletter, hnumber, hdigit, hunderscore⟩ := of_isBlank hblanks h
  refine ⟨hletter, hnumber, hdigit, ?_⟩
  rintro rfl
  exact hunderscore rfl

theorem isBlank_of_startsName (h : startsName c = true) : isBlank c = false := by
  by_contra hblank
  obtain ⟨hletter, -, -, hunderscore⟩ := not_name_of_isBlank (eq_true_of_ne_false hblank)
  simp [startsName, hletter, hunderscore] at h

theorem isBlank_of_continuesName (h : continuesName c = true) : isBlank c = false := by
  by_contra hblank
  obtain ⟨hletter, hnumber, -, hunderscore⟩ := not_name_of_isBlank (eq_true_of_ne_false hblank)
  simp [continuesName, hletter, hnumber, hunderscore] at h

theorem isBlank_of_continuesNumeral (h : continuesNumeral c = true) : isBlank c = false := by
  by_contra hblank
  obtain ⟨-, -, hdigit, -⟩ := not_name_of_isBlank (eq_true_of_ne_false hblank)
  simp [continuesNumeral, hdigit] at h

theorem isBlank_lineFeed : isBlank '\n' = true := by decide

end BatchCompiler.Text

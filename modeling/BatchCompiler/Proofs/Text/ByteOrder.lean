import Mathlib.Data.String.Basic
import BatchCompiler.Text.Utf8

/-!
# The order of bytes

Texts are in the order of their characters exactly when they are in the order of their bytes.  A greater
character either has a greater first byte, for it needs more of them, or as many bytes, which are digits
of its value.

## Main statements

* `Text.Utf8.utf8EncodeChar_append_lt` — a greater character has greater bytes
* `Text.Utf8.encode_lt_encode_iff` — texts by their bytes
* `Text.pairwise_lt_mergeSort` — different names in order
-/

namespace BatchCompiler.Text

namespace Utf8

/-- The digits of a smaller value come first. -/
theorem digits_lt {m n : Nat} (h : m < n) :
    m / 262144 < n / 262144 ∨ m / 262144 = n / 262144 ∧
      (m / 4096 % 64 < n / 4096 % 64 ∨ m / 4096 % 64 = n / 4096 % 64 ∧
        (m / 64 % 64 < n / 64 % 64 ∨ m / 64 % 64 = n / 64 % 64 ∧ m % 64 < n % 64)) := by
  omega

theorem toNat_val_lt (c : Char) : c.val.toNat < 0x110000 := by
  rcases c.valid with hlow | hhigh
  · simp only [UInt32.toNat] at hlow ⊢
    omega
  · exact hhigh.2

/-- **A greater character has greater bytes**, whatever follows. -/
theorem utf8EncodeChar_append_lt {a b : Char} (h : a < b) (s t : List UInt8) :
    String.utf8EncodeChar a ++ s < String.utf8EncodeChar b ++ t := by
  have hval : a.val.toNat < b.val.toNat := UInt32.lt_iff_toNat_lt.mp h
  have hbound : b.val.toNat < 0x110000 := toNat_val_lt b
  rw [String.utf8EncodeChar.eq_1, String.utf8EncodeChar.eq_1]
  generalize a.val.toNat = m at hval ⊢
  generalize b.val.toNat = n at hval hbound ⊢
  have hdigits := digits_lt hval
  -- One case for each two lengths.
  repeat' split
  all_goals simp only [List.cons_append, List.nil_append, List.cons_lt_cons_iff,
    UInt8.lt_iff_toNat_lt, UInt8.toNat_ofNat', ← UInt8.toNat_inj]
  all_goals simp (disch := omega) only [Nat.mod_eq_of_lt]
  all_goals omega

theorem utf8EncodeChar_ne_nil (c : Char) : String.utf8EncodeChar c ≠ [] := by
  rw [String.utf8EncodeChar.eq_1]
  repeat' split
  all_goals exact List.cons_ne_nil _ _

theorem flatMap_utf8EncodeChar_lt {cs ds : List Char} (h : cs < ds) :
    cs.flatMap String.utf8EncodeChar < ds.flatMap String.utf8EncodeChar := by
  induction h with
  | nil =>
      rename_i d ds
      rw [List.flatMap_nil, List.flatMap_cons, ← List.lex_lt]
      obtain ⟨b, bs, hbytes⟩ := List.exists_cons_of_ne_nil (utf8EncodeChar_ne_nil d)
      rw [hbytes]
      exact .nil
  | cons _ ih => exact List.append_left_lt ih
  | rel hless => exact utf8EncodeChar_append_lt hless _ _

/-- **Texts are in the order of their bytes.** -/
theorem encode_lt_encode_iff {s t : String} : encode s < encode t ↔ s < t := by
  have hencode {s t : String} (h : s < t) : encode s < encode t :=
    flatMap_utf8EncodeChar_lt (String.lt_iff.mp h)
  refine ⟨fun h => ?_, hencode⟩
  obtain hless | heq | hgreater := lt_trichotomy s t
  · exact hless
  · rw [heq] at h
    exact absurd h (List.lt_irrefl _)
  · exact absurd h (List.lt_asymm (hencode hgreater))

end Utf8

/-- **Different names are strictly in order** once they are sorted. -/
theorem pairwise_lt_mergeSort {β : Type} {entries : List (String × β)}
    (h : entries.Pairwise fun a b => a.1 ≠ b.1) :
    (entries.mergeSort fun a b => !(b.1 < a.1)).Pairwise fun a b => a.1 < b.1 := by
  have hsorted : (entries.mergeSort fun a b => !(b.1 < a.1)).Pairwise fun a b =>
      (!decide (b.1 < a.1)) = true := by
    refine List.pairwise_mergeSort ?_ ?_ _
    · intro a b c hab hbc
      simp only [Bool.not_eq_true', decide_eq_false_iff_not, not_lt] at hab hbc ⊢
      exact hab.trans hbc
    · intro a b
      simp only [Bool.or_eq_true, Bool.not_eq_true', decide_eq_false_iff_not, not_lt]
      exact le_total a.1 b.1
  have hdistinct : (entries.mergeSort fun a b => !(b.1 < a.1)).Pairwise fun a b => a.1 ≠ b.1 :=
    ((List.mergeSort_perm _ _).pairwise_iff Ne.symm).mpr h
  refine (hsorted.and hdistinct).imp ?_
  rintro a b ⟨hle, hne⟩
  simp only [Bool.not_eq_true', decide_eq_false_iff_not, not_lt] at hle
  exact lt_of_le_of_ne hle hne

end BatchCompiler.Text

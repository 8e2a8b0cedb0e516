import Mathlib
import BatchCompiler.Text.LowerCase

/-!
# Small letters of texts that differ in case

Texts that are the same up to the case of their ASCII letters have the same small letters.  That does
not follow character by character: which sigma a sigma becomes depends on the letters around it.

## Main definitions

* `SameButCase` — texts that are the same up to the case of their ASCII letters

## Main statements

* `SameButCase.lowerCase` — they have the same small letters
* `mem_lowerCase_of_small` — what is small already is left
-/

namespace BatchCompiler.Text

variable {c d : Char} {cs ds before before' : List Char}

/-! ## One character -/

/-- The code points of ASCII letters. -/
theorem toNat_of_isAlpha (h : c.isAlpha = true) :
    65 ≤ c.toNat ∧ c.toNat ≤ 90 ∨ 97 ≤ c.toNat ∧ c.toNat ≤ 122 := by
  simpa [Char.isAlpha, Char.isUpper, Char.isLower, UInt32.le_iff_toNat_le] using h

/-- **Characters that are the same up to case** are the same, or two ASCII letters. -/
theorem eq_or_isAlpha_of_toLower (h : c.toLower = d.toLower) :
    c = d ∨ c.isAlpha = true ∧ d.isAlpha = true := by
  have hboth : c.isAlpha = d.isAlpha := by
    rw [← Char.isAlpha_toLower_eq_isAlpha c, h, Char.isAlpha_toLower_eq_isAlpha]
  have hsmall (c : Char) (hletter : c.isAlpha = false) : c.toLower = c := by
    rw [Char.isAlpha, Bool.or_eq_false_iff] at hletter
    exact Char.toLower_eq_of_not_isUpper (by simp [hletter.1])
  cases hletter : d.isAlpha with
  | true => exact .inr ⟨hboth.trans hletter, rfl⟩
  | false => exact .inl (by rw [← hsmall c (hboth.trans hletter), h, hsmall d hletter])

/-- An ASCII letter is a cased character, and none that is passed over. -/
theorem cased_of_isAlpha (h : c.isAlpha = true) :
    caseIgnorableRanges.contains c.toNat = false ∧ casedRanges.contains c.toNat = true := by
  have htables : ∀ n < 123, 65 ≤ n ∧ n ≤ 90 ∨ 97 ≤ n ∧ n ≤ 122 →
      caseIgnorableRanges.contains n = false ∧ casedRanges.contains n = true := by
    decide +kernel
  have hrange := toNat_of_isAlpha h
  exact htables c.toNat (by omega) hrange

theorem lowerChar_of_isAlpha (h : c.isAlpha = true) : lowerChar c = [c.toLower] := by
  have hrange := toNat_of_isAlpha h
  unfold lowerChar
  rw [if_pos (by omega)]

/-! ## Texts -/

/-- **Texts that are the same up to the case of their ASCII letters.** -/
def SameButCase (s t : String) : Prop := s.toList.map Char.toLower = t.toList.map Char.toLower

instance (s t : String) : Decidable (SameButCase s t) :=
  inferInstanceAs (Decidable (s.toList.map Char.toLower = t.toList.map Char.toLower))

/-- Whether the next cased character is near does not depend on case. -/
theorem startsCased_congr (h : cs.map Char.toLower = ds.map Char.toLower) :
    startsCased cs = startsCased ds := by
  induction cs generalizing ds with
  | nil =>
      obtain rfl := List.map_eq_nil_iff.mp h.symm
      rfl
  | cons c rest ih =>
      obtain ⟨d, rest', rfl, hd, hrest⟩ := List.map_eq_cons_iff.mp h.symm
      rw [startsCased, startsCased, ih hrest.symm]
      obtain rfl | ⟨hc, hd⟩ := eq_or_isAlpha_of_toLower hd
      · rfl
      · rw [(cased_of_isAlpha hc).1, (cased_of_isAlpha hd).1, (cased_of_isAlpha hc).2,
          (cased_of_isAlpha hd).2]

theorem lowerChars_congr (hbefore : before.map Char.toLower = before'.map Char.toLower)
    (h : cs.map Char.toLower = ds.map Char.toLower) :
    lowerChars before cs = lowerChars before' ds := by
  induction cs generalizing before before' ds with
  | nil =>
      obtain rfl := List.map_eq_nil_iff.mp h.symm
      rfl
  | cons c rest ih =>
      obtain ⟨d, rest', rfl, hd, hrest⟩ := List.map_eq_cons_iff.mp h.symm
      have hnext : lowerChars (c :: before) rest = lowerChars (d :: before') rest' :=
        ih (by rw [List.map_cons, List.map_cons, hbefore, hd]) hrest.symm
      rw [lowerChars, lowerChars, hnext, startsCased_congr hbefore, startsCased_congr hrest.symm]
      obtain rfl | ⟨hletter, hletter'⟩ := eq_or_isAlpha_of_toLower hd
      · rfl
      · -- A letter is no sigma, so that what stands around it does not matter.
        have hrange := toNat_of_isAlpha hletter
        have hrange' := toNat_of_isAlpha hletter'
        rw [if_neg (by omega), if_neg (by omega), lowerChar_of_isAlpha hletter,
          lowerChar_of_isAlpha hletter', hd]

/-- **Texts that are the same up to case** have the same small letters. -/
theorem SameButCase.lowerCase {s t : String} (h : SameButCase s t) :
    Text.lowerCase s = Text.lowerCase t := by
  unfold Text.lowerCase
  rw [lowerChars_congr rfl h]

theorem mem_lowerChars_of_small (hascii : c.toNat < 0x80) (hsmall : c.toLower = c) (h : c ∈ cs) :
    c ∈ lowerChars before cs := by
  induction cs generalizing before with
  | nil => cases h
  | cons d rest ih =>
      rw [lowerChars, List.mem_append]
      obtain rfl | hrest := List.mem_cons.mp h
      · left
        unfold lowerChar
        rw [if_neg (by omega), if_pos hascii, hsmall]
        exact List.mem_singleton_self c
      · exact .inr (ih hrest)

/-- **A character that is small already** is left in a text, if it is an ASCII character. -/
theorem mem_lowerCase_of_small {s : String} (hascii : c.toNat < 0x80) (hsmall : c.toLower = c)
    (h : c ∈ s.toList) : c ∈ (lowerCase s).toList := by
  unfold lowerCase
  rw [String.toList_ofList]
  exact mem_lowerChars_of_small hascii hsmall h

end BatchCompiler.Text

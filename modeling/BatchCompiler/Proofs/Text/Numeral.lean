import Mathlib
import BatchCompiler.Text.Blank
import BatchCompiler.Text.Numeral
import BatchCompiler.Text.Split

/-!
# Numerals read back

The digits of a number are read as this number, and nothing in a numeral is taken for a blank or for a
mark between entries.

## Main statements

* `digits?_toDigits`, `integer32?_toString` — a numeral is read as its number
* `digits?_eq_some_iff`, `integer32?_eq_some_iff_of_pos` — what is read as a number
* `trim_toString` — there is nothing to trim about it
* `exists_append_trim`, `trim_of_append` — what trimming leaves of a text
-/

namespace BatchCompiler.Text

/-- The characters of a numeral. -/
theorem isDigit_of_mem_toString {n : Nat} {c : Char} (mem : c ∈ (toString n).toList) :
    c.isDigit = true := by
  rw [show toString n = n.repr from rfl, Nat.toList_repr] at mem
  exact Nat.isDigit_of_mem_toDigits (by decide) (by decide) mem

theorem digitsValue?_of_isDigit {cs : List Char} (h : ∀ c ∈ cs, c.isDigit = true) (value : Nat) :
    digitsValue? value cs = some (Nat.ofDigitChars 10 cs value) := by
  induction cs generalizing value with
  | nil => rfl
  | cons c rest ih =>
      obtain ⟨hc, hrest⟩ := List.forall_mem_cons.mp h
      rw [digitsValue?, if_pos hc, ih hrest, Nat.mul_comm value 10]
      rfl

theorem isDigit_of_digitsValue? {cs : List Char} {value n : Nat} (h : digitsValue? value cs = some n) :
    ∀ c ∈ cs, c.isDigit = true := by
  induction cs generalizing value with
  | nil => simp
  | cons c rest ih =>
      rw [digitsValue?] at h
      split at h
      · rename_i hc
        exact List.forall_mem_cons.mpr ⟨hc, ih h⟩
      · cases h

/-- **What is read as a number**: one digit or more. -/
theorem digits?_eq_some_iff {cs : List Char} {n : Nat} :
    digits? cs = some n ↔
      cs ≠ [] ∧ (∀ c ∈ cs, c.isDigit = true) ∧ Nat.ofDigitChars 10 cs 0 = n := by
  unfold digits?
  split
  · simp
  · rename_i hne
    constructor
    · intro h
      have hdigit := isDigit_of_digitsValue? h
      rw [digitsValue?_of_isDigit hdigit] at h
      exact ⟨hne, hdigit, Option.some.inj h⟩
    · rintro ⟨-, hdigit, rfl⟩
      exact digitsValue?_of_isDigit hdigit 0

theorem digits?_toDigits (n : Nat) : digits? (Nat.toDigits 10 n) = some n := by
  have hdigits : ∀ c ∈ Nat.toDigits 10 n, c.isDigit = true := fun c mem =>
    Nat.isDigit_of_mem_toDigits (by decide) (by decide) mem
  have hvalue := digitsValue?_of_isDigit hdigits 0
  rw [Nat.ofDigitChars_toDigits (by decide) (by decide)] at hvalue
  unfold digits?
  split
  · rename_i hnil
    exact absurd hnil Nat.toDigits_ne_nil
  · exact hvalue

/-- **A numeral within 32 bits is read as its number.** -/
theorem integer32?_toString {n : Nat} (h : n < 0x80000000) :
    integer32? (toString n) = some (n : Int) := by
  have hdigit : ∀ c ∈ Nat.toDigits 10 n, c.isDigit = true := fun c mem =>
    Nat.isDigit_of_mem_toDigits (by decide) (by decide) mem
  unfold integer32?
  rw [show toString n = n.repr from rfl, Nat.toList_repr]
  split
  · rename_i hsign
    rw [hsign] at hdigit
    exact absurd (hdigit _ List.mem_cons_self) (by decide)
  · rename_i hsign
    rw [hsign] at hdigit
    exact absurd (hdigit _ List.mem_cons_self) (by decide)
  · rw [digits?_toDigits, Option.bind_some, if_pos h]

/-- **What is read as a positive number**: digits, with or without a plus sign, unless they are too
many. -/
theorem integer32?_eq_some_iff_of_pos {s : String} {n : Nat} (hpos : 1 ≤ n) :
    integer32? s = some (n : Int) ↔
      ∃ sign digits, s.toList = sign ++ digits ∧ (sign = [] ∨ sign = ['+']) ∧
        digits? digits = some n ∧ n < 0x80000000 := by
  have hbind : ∀ {cs : List Char}, ((digits? cs).bind fun m =>
      if m < 0x80000000 then some (m : Int) else none) = some (n : Int) ↔
        digits? cs = some n ∧ n < 0x80000000 := by
    intro cs
    rw [Option.bind_eq_some_iff]
    constructor
    · rintro ⟨m, hm, hlimit⟩
      split at hlimit
      · rename_i hlt
        obtain rfl : m = n := by exact_mod_cast Option.some.inj hlimit
        exact ⟨hm, hlt⟩
      · cases hlimit
    · rintro ⟨hn, hlt⟩
      exact ⟨n, hn, if_pos hlt⟩
  have hminus : ∀ {rest : List Char}, digits? ('-' :: rest) ≠ some n := by
    intro rest h
    exact absurd ((digits?_eq_some_iff.mp h).2.1 '-' List.mem_cons_self) (by decide)
  have hplus : ∀ {rest : List Char}, digits? ('+' :: rest) ≠ some n := by
    intro rest h
    exact absurd ((digits?_eq_some_iff.mp h).2.1 '+' List.mem_cons_self) (by decide)
  unfold integer32?
  split
  · -- A number with a minus sign is not positive.
    rename_i rest hletters
    constructor
    · intro h
      obtain ⟨m, -, hlimit⟩ := Option.bind_eq_some_iff.mp h
      split at hlimit
      · have : -(m : Int) = n := Option.some.inj hlimit
        omega
      · cases hlimit
    · rintro ⟨sign, digits, hsplit, rfl | rfl, hdigits, -⟩
      · rw [List.nil_append] at hsplit
        rw [← hsplit] at hdigits
        rw [hletters] at hdigits
        exact absurd hdigits hminus
      · rw [hletters] at hsplit
        exact absurd (List.cons.inj hsplit).1 (by decide)
  · rename_i rest hletters
    rw [hbind]
    constructor
    · rintro ⟨hdigits, hlt⟩
      exact ⟨['+'], rest, hletters, .inr rfl, hdigits, hlt⟩
    · rintro ⟨sign, digits, hsplit, rfl | rfl, hdigits, hlt⟩
      · rw [List.nil_append] at hsplit
        rw [← hsplit, hletters] at hdigits
        exact absurd hdigits hplus
      · rw [hletters] at hsplit
        rw [(List.cons.inj hsplit).2]
        exact ⟨hdigits, hlt⟩
  · rename_i hnoMinus hnoPlus
    rw [hbind]
    constructor
    · rintro ⟨hdigits, hlt⟩
      exact ⟨[], s.toList, rfl, .inl rfl, hdigits, hlt⟩
    · rintro ⟨sign, digits, hsplit, rfl | rfl, hdigits, hlt⟩
      · rw [hsplit]
        exact ⟨hdigits, hlt⟩
      · exact absurd hsplit (hnoPlus _)

/-- No digit is a blank. -/
theorem isBlank_of_isDigit {c : Char} (h : c.isDigit = true) : isBlank c = false := by
  have hrange : 48 ≤ c.toNat ∧ c.toNat ≤ 57 := Char.isDigit_iff_toNat.mp h
  have hbelow : ¬ c.toNat < 0x9 := by omega
  have hcontrol : ¬ c.toNat ≤ 0xD := by omega
  have hspace : ¬ c.toNat < 0x20 := by omega
  have hspace' : ¬ c.toNat ≤ 0x20 := by omega
  have hahead : c.toNat < 0x85 := by omega
  simp only [isBlank, blankRanges, CodePointRanges.contains, hbelow, hcontrol, hspace, hspace',
    hahead, if_true, if_false]

/-- Without a blank there is nothing to trim. -/
theorem trim_of_not_isBlank {s : String} (h : ∀ c ∈ s.toList, isBlank c = false) : trim s = s := by
  have hkeep : ∀ {cs : List Char}, (∀ c ∈ cs, isBlank c = false) → cs.dropWhile isBlank = cs := by
    intro cs hcs
    cases cs with
    | nil => rfl
    | cons c rest => simp [hcs c List.mem_cons_self]
  unfold trim dropBlankEnd
  rw [hkeep h, hkeep fun c mem => h c (List.mem_reverse.mp mem), List.reverse_reverse,
    String.ofList_toList]

/-- **What trimming leaves of a text** stands between blanks. -/
theorem exists_append_trim (s : String) :
    ∃ before after, s.toList = before ++ (trim s).toList ++ after ∧
      ∀ c ∈ before ++ after, isBlank c = true := by
  have hends (cs : List Char) : cs = cs.takeWhile isBlank ++ cs.dropWhile isBlank :=
    List.takeWhile_append_dropWhile.symm
  have hrest := hends (s.toList.dropWhile isBlank).reverse
  refine ⟨s.toList.takeWhile isBlank,
    ((s.toList.dropWhile isBlank).reverse.takeWhile isBlank).reverse, ?_, ?_⟩
  · unfold trim dropBlankEnd
    rw [String.toList_ofList, List.append_assoc, ← List.reverse_append, ← hrest, List.reverse_reverse]
    exact hends s.toList
  · intro c mem
    rw [List.mem_append, List.mem_reverse] at mem
    exact mem.elim List.mem_takeWhile_imp List.mem_takeWhile_imp

/-- **Trimming takes the blanks away** from both sides of what has none. -/
theorem trim_of_append {s : String} {before core after : List Char}
    (h : s.toList = before ++ core ++ after) (hblank : ∀ c ∈ before ++ after, isBlank c = true)
    (hcore : ∀ c ∈ core, isBlank c = false) : trim s = String.ofList core := by
  obtain ⟨hbefore, hafter⟩ := List.forall_mem_append.mp hblank
  have hfirst : (core ++ after).dropWhile isBlank = core ++ after ∨ core = [] := by
    cases core with
    | nil => exact .inr rfl
    | cons c rest => exact .inl (by simp [hcore c List.mem_cons_self])
  have hreverse : ∀ c ∈ after.reverse, isBlank c = true := fun c mem =>
    hafter c (List.mem_reverse.mp mem)
  have hlast : core.reverse.dropWhile isBlank = core.reverse := by
    cases hends : core.reverse with
    | nil => rfl
    | cons c rest =>
        have mem : c ∈ core := List.mem_reverse.mp (hends ▸ List.mem_cons_self)
        simp [hcore c mem]
  unfold trim dropBlankEnd
  rw [h, List.append_assoc, List.dropWhile_append_of_pos hbefore]
  rcases hfirst with hfirst | rfl
  · rw [hfirst, List.reverse_append, List.dropWhile_append_of_pos hreverse, hlast,
      List.reverse_reverse]
  · rw [List.nil_append, List.dropWhile_eq_nil_iff.mpr hafter]
    rfl

theorem trim_toString (n : Nat) : trim (toString n) = toString n :=
  trim_of_not_isBlank fun _ mem => isBlank_of_isDigit (isDigit_of_mem_toString mem)

/-- Without a mark there is one piece. -/
theorem splitChars_of_not {p : Char → Bool} {cs : List Char} (h : ∀ c ∈ cs, p c = false) :
    splitChars p cs = [cs] := by
  induction cs with
  | nil => rfl
  | cons c rest ih =>
      obtain ⟨hc, hrest⟩ := List.forall_mem_cons.mp h
      simp [splitChars, hc, ih hrest]

theorem pieces_of_not {p : Char → Bool} {s : String} (h : ∀ c ∈ s.toList, p c = false) :
    pieces p s = [s] := by
  unfold pieces
  rw [splitChars_of_not h, List.map_singleton, String.ofList_toList]

end BatchCompiler.Text

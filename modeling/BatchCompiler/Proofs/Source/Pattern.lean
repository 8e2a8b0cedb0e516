import Mathlib.Data.List.Forall2
import BatchCompiler.Proofs.Regex.Bundled
import BatchCompiler.Source.Files

/-!
# What a pattern matches

A name matches a pattern when it can be cut into pieces, one for each character of the pattern, that the
characters may take.  The pattern is handed to an engine as an expression, which may be found anywhere in
a name; it is held to the whole name by its assertions, and what is quoted in it stands for itself.

## Main definitions

* `Glob.Takes` — what a character of a pattern may take
* `Glob.Cuts` — a name is cut into pieces that the characters of a pattern take
* `Glob.regex` — the expression of a pattern, read

## Main statements

* `Glob.written_expression` — the expression is written as it should be
* `Glob.foundIn_regex_iff` — it is found in the names that can be cut
* `Glob.selects_iff_cuts` — a lawful engine selects the names that can be cut
-/

namespace BatchCompiler

namespace Glob

/-- **What a character of a pattern may take.** -/
inductive Takes : Char → List Char → Prop
  | anyRun {piece : List Char} (h : '\n' ∉ piece) : Takes '*' piece
  | anyChar {c : Char} (h : c ≠ '\n') : Takes '?' [c]
  | exactly {c : Char} (hrun : c ≠ '*') (hchar : c ≠ '?') : Takes c [c]

/-- **A name is cut** into consecutive pieces, one for each character of a pattern, with nothing left
over. -/
def Cuts (pattern name : List Char) : Prop :=
  ∃ pieces : List (List Char), List.Forall₂ Takes pattern pieces ∧ pieces.flatten = name

/-- The first character takes a piece at the start, and the rest of the pattern what is behind it. -/
theorem cuts_cons_iff {c : Char} {pattern name : List Char} :
    Cuts (c :: pattern) name ↔ ∃ piece behind, name = piece ++ behind ∧ Takes c piece ∧
      Cuts pattern behind := by
  constructor
  · rintro ⟨pieces, htake, rfl⟩
    cases htake with
    | @cons _ piece _ pieces hfirst hrest =>
        exact ⟨piece, pieces.flatten, List.flatten_cons, hfirst, pieces, hrest, rfl⟩
  · rintro ⟨piece, behind, rfl, hfirst, pieces, hrest, rfl⟩
    exact ⟨piece :: pieces, .cons hfirst hrest, List.flatten_cons⟩

theorem cuts_nil_iff {name : List Char} : Cuts [] name ↔ name = [] := by
  constructor
  · rintro ⟨pieces, htake, rfl⟩
    cases htake
    rfl
  · rintro rfl
    exact ⟨[], .nil, rfl⟩

/-! ## The expression of a pattern -/

/-- The piece of an expression that a character of a pattern is. -/
def regexPiece (c : Char) : Regex.Piece :=
  if c = '*' then .anyTimes .anyChar
  else if c = '?' then .once .anyChar
  else .once (.char c)

/-- **The expression of a pattern**, read. -/
def regex (pattern : List Char) : Regex :=
  .once .textStart :: (pattern.map regexPiece ++ [.once .textEnd])

theorem written_expressionOfChar (c : Char) :
    Regex.Written [regexPiece c] (expressionOfChar c).toList := by
  unfold regexPiece expressionOfChar
  split
  · exact .anyTimes .anyChar .nil
  · split
    · exact .once .anyChar .nil
    · have hquoted : (Regex.escape (String.singleton c)).toList = Regex.escapeChar c ++ [] := by
        simp [Regex.escape]
      rw [hquoted]
      exact .once (Regex.Atom.written_escapeChar c) .nil

/-- **The expression of a pattern is written** as it should be. -/
theorem written_expression (pattern : String) :
    Regex.Written (regex pattern.toList) (expression pattern).toList := by
  -- Whatever has been written ahead, each character adds its piece.
  have hchars (chars : List Char) : ∀ (r : Regex) (text : String), Regex.Written r text.toList →
      Regex.Written (r ++ chars.map regexPiece)
        (chars.foldl (fun text c => text ++ expressionOfChar c) text).toList := by
    induction chars with
    | nil =>
        intro r text h
        rwa [List.map_nil, List.append_nil]
    | cons c chars ih =>
        intro r text h
        rw [List.map_cons, List.append_cons]
        refine ih _ _ ?_
        rw [String.toList_append]
        exact h.append (written_expressionOfChar c)
  unfold expression
  rw [String.toList_append]
  exact (hchars pattern.toList [.once .textStart] "^" (.once .textStart .nil)).append
    (.once .textEnd .nil)

variable {c : Char} {pattern name : List Char} {before taken behind : List Char}

/-- **A piece takes what its character may take**, wherever it stands. -/
theorem takes_regexPiece_iff : (regexPiece c).Takes before taken behind ↔ Takes c taken := by
  unfold regexPiece
  split
  · rename_i hrun
    subst hrun
    have hplain : (∀ c ∈ taken, Regex.Atom.anyChar.Takes [] [c] []) ↔ '\n' ∉ taken := by
      simpa using List.forall_mem_ne'
    rw [Regex.Piece.takes_anyTimes_iff, hplain]
    refine ⟨.anyRun, fun htake => ?_⟩
    cases htake with
    | anyRun hpiece => exact hpiece
    | exactly hrun _ => exact absurd rfl hrun
  · rename_i hrun
    split
    · rename_i hchar
      subst hchar
      rw [Regex.Piece.takes_once_iff, Regex.Atom.takes_anyChar_iff]
      constructor
      · rintro ⟨c, hc, rfl⟩
        exact .anyChar hc
      · rintro htake
        cases htake with
        | anyChar hplain => exact ⟨_, hplain, rfl⟩
        | exactly _ hchar => exact absurd rfl hchar
    · rename_i hchar
      rw [Regex.Piece.takes_once_iff, Regex.Atom.takes_char_iff]
      constructor
      · rintro rfl
        exact .exactly hrun hchar
      · rintro htake
        cases htake with
        | anyRun => exact absurd rfl hrun
        | anyChar => exact absurd rfl hchar
        | exactly => rfl

/-- **The pieces of a pattern take what can be cut**, wherever they stand. -/
theorem takes_map_regexPiece_iff :
    Regex.Takes (pattern.map regexPiece) before taken behind ↔ Cuts pattern taken := by
  induction pattern generalizing before taken with
  | nil => rw [List.map_nil, Regex.takes_nil_iff, cuts_nil_iff]
  | cons c pattern ih =>
      rw [List.map_cons, Regex.takes_cons_iff, cuts_cons_iff]
      simp only [takes_regexPiece_iff, ih]

/-- **The expression is found in the names that can be cut.**  As it is held to the start and to the end,
it takes nothing less than the whole name. -/
theorem foundIn_regex_iff : (regex pattern).FoundIn name ↔ Cuts pattern name := by
  unfold regex Regex.FoundIn
  constructor
  · rintro ⟨before, taken, behind, rfl, htakes⟩
    obtain ⟨_, inner, rfl, hstart, hinner⟩ := Regex.takes_cons_iff.mp htakes
    obtain ⟨rfl, rfl⟩ := Regex.Atom.takes_textStart_iff.mp (Regex.Piece.takes_once_iff.mp hstart)
    obtain ⟨cut, last, rfl, hcut, hlast⟩ := Regex.takes_append_iff.mp hinner
    obtain ⟨_, _, rfl, hend, hnil⟩ := Regex.takes_cons_iff.mp hlast
    obtain rfl := Regex.takes_nil_iff.mp hnil
    obtain ⟨rfl, hbehind⟩ := Regex.Atom.takes_textEnd_iff.mp (Regex.Piece.takes_once_iff.mp hend)
    rw [List.nil_append] at hbehind
    subst hbehind
    simpa using takes_map_regexPiece_iff.mp hcut
  · intro hcut
    refine ⟨[], name, [], by simp, Regex.takes_cons_iff.mpr ⟨[], name, rfl, .once .textStart, ?_⟩⟩
    refine Regex.takes_append_iff.mpr ⟨name, [], (List.append_nil name).symm, ?_, ?_⟩
    · exact takes_map_regexPiece_iff.mpr hcut
    · exact .cons (.once .textEnd) .nil

end Glob

/-- **Of the entries of a directory** those are taken that have a name that is selected and are no
directories. -/
theorem SourceSet.mem_matching_iff {selects : String → Bool} {children : List (String × Entry)}
    {name : String} :
    name ∈ matching selects children ↔
      (∃ entry, (name, entry) ∈ children ∧ entry ≠ .directory) ∧ selects name = true := by
  unfold matching
  simp only [List.mem_map, List.mem_filter, Bool.and_eq_true, bne_iff_ne]
  constructor
  · rintro ⟨⟨_, entry⟩, ⟨hmem, hplain, hselects⟩, rfl⟩
    exact ⟨⟨entry, hmem, hplain⟩, hselects⟩
  · rintro ⟨⟨entry, hmem, hplain⟩, hselects⟩
    exact ⟨(name, entry), ⟨hmem, hplain, hselects⟩, rfl⟩

namespace Glob

/-- **A name is selected if and only if it can be cut** into consecutive pieces, one for each character of
the pattern: `*` takes any run without a line feed, `?` any one character but a line feed, and every
other character itself.  So it is with every lawful engine that accepts the pattern.  Of the entries of a
directory those are taken that have such a name and are no directories. -/
theorem selects_iff_cuts {engine : Regex.Engine} (hengine : engine.Lawful) {pattern : String}
    {selects : String → Bool} (h : engine.compile (expression pattern) = .ok selects) :
    (∀ name : String, selects name = true ↔ Cuts pattern.toList name.toList) ∧
      ∀ (children : List (String × Entry)) (name : String),
        name ∈ SourceSet.matching selects children ↔
          (∃ entry, (name, entry) ∈ children ∧ entry ≠ .directory) ∧
            Cuts pattern.toList name.toList := by
  have hselects (name : String) : selects name = true ↔ Cuts pattern.toList name.toList :=
    (hengine.finds_iff h (written_expression pattern) name).trans foundIn_regex_iff
  refine ⟨hselects, fun children name => ?_⟩
  rw [SourceSet.mem_matching_iff, hselects]

/-- Of several ways to cut a name one is enough, a dot takes only a dot, and no line feed is taken. -/
theorem selects_iff_cuts_several :
    Cuts "a*?.*".toList "aa.é..cs".toList ∧ ¬Cuts "a*?.*".toList "aab".toList ∧
      ¬Cuts "a*?.*".toList "a\nb.cs".toList := by
  have hcompile : Regex.Engine.bundled.compile (expression "a*?.*") =
      .ok fun name => (regex "a*?.*".toList).isFoundIn name.toList := rfl
  have hselects := (selects_iff_cuts Regex.Engine.bundled_lawful hcompile).1
  refine ⟨(hselects _).mp ?_, fun hcut => ?_, fun hcut => ?_⟩
  · decide
  · exact absurd ((hselects _).mpr hcut) (by decide)
  · exact absurd ((hselects _).mpr hcut) (by decide)

end Glob

end BatchCompiler

import Mathlib.Data.List.TakeWhile
import BatchCompiler.Host.Scanner
import BatchCompiler.Pipeline.Stages
import BatchCompiler.Proofs.Action
import BatchCompiler.Proofs.Text.Classes

/-!
# How lexemes cover a text

The lexemes of a text are its characters, cut into pieces; what kind of lexeme a piece is can be said
from the piece and from what stands behind it.  The only lexemes that can hold a blank are closed
literals, and the only ones that are no valid tokens are quotes behind which no literal is closed.

## Main definitions

* `Lexeme.Inside`, `Lexeme.Closes` — what stands inside a literal, and what closes one
* `Lexeme.Fits` — a lexeme is what the text behind it makes of its characters
* `Lexeme.tokens`, `Lexeme.Covers` — the tokens of a text, and that they cover it

## Main statements

* `Lexeme.closeLiteral?_eq_some_iff` — where a literal is closed
* `Lexeme.fits_of_read` — one lexeme, and `Lexeme.fits_of_split` — a lexeme anywhere in a text
* `Lexeme.tokens_cover` — the tokens of a text
-/

namespace BatchCompiler.Lexeme

open Text (isBlank)

/-! ## Literals -/

/-- **What stands inside a literal**: characters of one line, of which a backslash escapes the next, and
no quote that is not escaped. -/
inductive Inside : List Char → Prop
  | nil : Inside []
  | plain {c : Char} {cs : List Char} (hquote : c ≠ '\x22') (hslash : c ≠ '\\') (hline : c ≠ '\n')
      (h : Inside cs) : Inside (c :: cs)
  | escaped {c : Char} {cs : List Char} (hline : c ≠ '\n') (h : Inside cs) : Inside ('\\' :: c :: cs)

/-- **A text closes a literal** that was opened ahead of it: it has a quote that is not escaped, and
the end of the line does not come before. -/
def Closes (cs : List Char) : Prop := ∃ inside behind, Inside inside ∧ cs = inside ++ '\x22' :: behind

/-- **A closed literal**, quotes included. -/
def IsLiteral (cs : List Char) : Prop := ∃ inside, Inside inside ∧ cs = '\x22' :: inside ++ ['\x22']

theorem closeLiteral?_of_inside {inside : List Char} (h : Inside inside) (behind : List Char) :
    closeLiteral? (inside ++ '\x22' :: behind) = some (inside ++ ['\x22'], behind) := by
  induction h with
  | nil => rfl
  | plain hquote hslash hline _ ih =>
      rw [List.cons_append, closeLiteral?, ih]
      · rfl
      · exact hquote
      · exact hline
      · intro h
        exact absurd h hslash
      · intro c rest h
        exact absurd h hslash
  | escaped hline _ ih =>
      rw [List.cons_append, List.cons_append, closeLiteral?, if_neg hline, ih]
      rfl

/-- **A literal is closed** by the first quote that is not escaped. -/
theorem closeLiteral?_eq_some_iff {cs body behind : List Char} :
    closeLiteral? cs = some (body, behind) ↔
      ∃ inside, Inside inside ∧ body = inside ++ ['\x22'] ∧ cs = inside ++ '\x22' :: behind := by
  constructor
  · intro h
    fun_induction closeLiteral? cs generalizing body behind with
    | case1 => cases h
    | case2 rest =>
        cases h
        exact ⟨[], .nil, rfl, rfl⟩
    | case3 => cases h
    | case4 => cases h
    | case5 => cases h
    | case6 c rest hline ih =>
        obtain ⟨⟨body', behind'⟩, hrest, hboth⟩ := Option.map_eq_some_iff.mp h
        cases hboth
        obtain ⟨inside, hinside, rfl, rfl⟩ := ih hrest
        exact ⟨'\\' :: c :: inside, .escaped hline hinside, rfl, rfl⟩
    | case7 c rest hquote hline hend hslash ih =>
        obtain ⟨⟨body', behind'⟩, hrest, hboth⟩ := Option.map_eq_some_iff.mp h
        cases hboth
        obtain ⟨inside, hinside, rfl, rfl⟩ := ih hrest
        refine ⟨c :: inside, .plain hquote ?_ hline hinside, rfl, rfl⟩
        rintro rfl
        cases hsplit : inside ++ '\x22' :: behind with
        | nil => simp at hsplit
        | cons d more => exact hslash d more rfl hsplit
  · rintro ⟨inside, hinside, rfl, rfl⟩
    exact closeLiteral?_of_inside hinside behind

theorem closeLiteral?_eq_none_iff {cs : List Char} : closeLiteral? cs = none ↔ ¬ Closes cs := by
  constructor
  · rintro hnone ⟨inside, behind, hinside, rfl⟩
    rw [closeLiteral?_of_inside hinside] at hnone
    cases hnone
  · intro hopen
    cases hclosed : closeLiteral? cs with
    | none => rfl
    | some closed =>
        obtain ⟨inside, hinside, -, hcs⟩ := closeLiteral?_eq_some_iff.mp hclosed
        exact absurd ⟨inside, closed.2, hinside, hcs⟩ hopen

/-- What stands inside a literal stands on one line. -/
theorem Inside.oneLine {cs : List Char} (h : Inside cs) : '\n' ∉ cs := by
  induction h with
  | nil => simp
  | plain _ _ hline _ ih => simp [ih, hline.symm]
  | escaped hline _ ih => simp [ih, hline.symm]

/-! ## One lexeme -/

/-- **A lexeme fits** what stands behind it: its characters are of its kind, and there are no more of
them to take. -/
def Fits (behind : List Char) : Lexeme → Prop
  | .blank c => isBlank c = true
  | .word cs => (∃ c rest, cs = c :: rest ∧ Text.startsName c = true ∧
      ∀ d ∈ rest, Text.continuesName d = true) ∧
        ∀ d ∈ behind.head?, Text.continuesName d = false
  | .number cs => (cs ≠ [] ∧ ∀ d ∈ cs, Text.continuesNumeral d = true) ∧
      ∀ d ∈ behind.head?, Text.continuesNumeral d = false
  | .literal cs => IsLiteral cs
  | .loneQuote => ¬ Closes behind
  | .symbol c => isBlank c = false ∧ c ≠ '\x22'

section Kinds

variable {behind : List Char} {l : Lexeme}

theorem chars_ne_nil (h : l.Fits behind) : l.chars ≠ [] := by
  cases l with
  | blank c => simp [chars]
  | word cs =>
      obtain ⟨⟨c, rest, rfl, -⟩, -⟩ := h
      simp [chars]
  | number cs => exact h.1.1
  | literal cs =>
      obtain ⟨inside, -, rfl⟩ := h
      simp [chars]
  | loneQuote => simp [chars]
  | symbol c => simp [chars]

/-- A token that is no literal holds no blank. -/
theorem isLiteral_of_blank (h : l.Fits behind) (htoken : l.kind?.isSome = true) {c : Char}
    (mem : c ∈ l.chars) (hblank : isBlank c = true) : IsLiteral l.chars := by
  cases l with
  | blank d => cases htoken
  | word cs =>
      obtain ⟨⟨d, rest, rfl, hstart, hrest⟩, -⟩ := h
      have hnone : isBlank c = false := by
        obtain rfl | mem := List.mem_cons.mp mem
        · exact Text.isBlank_of_startsName hstart
        · exact Text.isBlank_of_continuesName (hrest c mem)
      rw [hnone] at hblank
      cases hblank
  | number cs =>
      have hnone : isBlank c = false := Text.isBlank_of_continuesNumeral (h.1.2 c mem)
      rw [hnone] at hblank
      cases hblank
  | literal cs => exact h
  | loneQuote =>
      obtain rfl := List.mem_singleton.mp mem
      exact absurd hblank (by decide)
  | symbol d =>
      obtain rfl := List.mem_singleton.mp mem
      rw [h.1] at hblank
      cases hblank

/-- **No token goes over the end of a line.** -/
theorem lineFeed_notMem_chars (h : l.Fits behind) (htoken : l.kind?.isSome = true) :
    '\n' ∉ l.chars := by
  intro mem
  obtain ⟨inside, hinside, hchars⟩ := isLiteral_of_blank h htoken mem Text.isBlank_lineFeed
  rw [hchars] at mem
  simp [hinside.oneLine] at mem

/-- **A token is invalid** if and only if it is a quote behind which no literal is closed. -/
theorem kind?_eq_invalid_iff (h : l.Fits behind) :
    l.kind? = some .invalid ↔ l.chars = ['\x22'] ∧ ¬ Closes behind := by
  constructor
  · intro hkind
    cases l with
    | loneQuote => exact ⟨rfl, h⟩
    | _ => cases hkind
  · rintro ⟨hchars, -⟩
    cases l with
    | loneQuote => rfl
    | blank c =>
        obtain rfl : c = '\x22' := List.cons.inj hchars |>.1
        exact absurd (show isBlank '\x22' = true from h) (by decide)
    | word cs =>
        obtain ⟨⟨c, rest, rfl, hstart, -⟩, -⟩ := h
        obtain rfl : c = '\x22' := List.cons.inj hchars |>.1
        exact absurd hstart (by decide +kernel)
    | number cs =>
        obtain rfl : cs = ['\x22'] := hchars
        exact absurd (h.1.2 _ List.mem_cons_self) (by decide +kernel)
    | literal cs =>
        obtain ⟨inside, -, rfl⟩ := h
        simp [chars] at hchars
    | symbol c => exact absurd (List.cons.inj hchars |>.1) h.2

end Kinds

theorem head?_dropWhile (p : Char → Bool) (cs : List Char) :
    ∀ d ∈ (cs.dropWhile p).head?, p d = false := by
  intro d hd
  have hnot := List.head?_dropWhile_not p cs
  rw [hd] at hnot
  exact hnot

/-- **The first lexeme** fits what stands behind it, and that is read next. -/
theorem fits_of_read {cs : List Char} {l : Lexeme} {ls : List Lexeme} (h : read cs = l :: ls) :
    ∃ behind, cs = l.chars ++ behind ∧ ls = read behind ∧ l.Fits behind := by
  cases cs with
  | nil =>
      rw [read] at h
      cases h
  | cons c rest =>
      rw [read] at h
      -- One case for each kind, in the order in which they are tried.
      split at h
      · rename_i hblank
        cases h
        exact ⟨rest, rfl, rfl, hblank⟩
      · rename_i hblank
        split at h
        · rename_i hname
          cases h
          refine ⟨rest.dropWhile Text.continuesName, ?_, rfl, ⟨c, _, rfl, hname, ?_⟩, ?_⟩
          · simp [chars, List.takeWhile_append_dropWhile]
          · intro d mem
            exact List.mem_takeWhile_imp mem
          · exact head?_dropWhile _ _
        · split at h
          · rename_i hnumeral
            cases h
            refine ⟨rest.dropWhile Text.continuesNumeral, ?_, rfl, ⟨by simp, ?_⟩, ?_⟩
            · simp [chars, List.takeWhile_append_dropWhile]
            · intro d mem
              obtain rfl | mem := List.mem_cons.mp mem
              · exact hnumeral
              · exact List.mem_takeWhile_imp mem
            · exact head?_dropWhile _ _
          · split at h
            · rename_i hquote
              subst hquote
              split at h
              · rename_i body after hclosed
                cases h
                obtain ⟨inside, hinside, rfl, rfl⟩ := closeLiteral?_eq_some_iff.mp hclosed
                exact ⟨after, by simp [chars], rfl, inside, hinside, rfl⟩
              · rename_i hnone
                cases h
                exact ⟨rest, rfl, rfl, closeLiteral?_eq_none_iff.mp hnone⟩
            · rename_i hquote
              cases h
              exact ⟨rest, rfl, rfl, by simpa using hblank, hquote⟩

/-! ## All lexemes -/

theorem read_eq_nil_iff {cs : List Char} : read cs = [] ↔ cs = [] := by
  constructor
  · intro h
    cases cs with
    | nil => rfl
    | cons c rest =>
        rw [read] at h
        repeat' split at h
        all_goals cases h
  · rintro rfl
    rw [read]

/-- **The lexemes of a text are its characters.** -/
theorem flatMap_chars_read (cs : List Char) : (read cs).flatMap chars = cs := by
  generalize hread : read cs = ls
  induction ls generalizing cs with
  | nil => exact (read_eq_nil_iff.mp hread).symm
  | cons l ls ih =>
      obtain ⟨behind, rfl, hls, -⟩ := fits_of_read hread
      rw [List.flatMap_cons, ih behind hls.symm]

/-- **A lexeme anywhere in a text** fits what stands behind it, and that is read next. -/
theorem fits_of_split {cs : List Char} {l : Lexeme} {before after : List Lexeme}
    (h : read cs = before ++ l :: after) :
    ∃ behind, cs = before.flatMap chars ++ l.chars ++ behind ∧ after = read behind ∧
      l.Fits behind := by
  induction before generalizing cs with
  | nil =>
      obtain ⟨behind, rfl, hafter, hfits⟩ := fits_of_read h
      exact ⟨behind, rfl, hafter, hfits⟩
  | cons first before ih =>
      obtain ⟨rest, rfl, hrest, -⟩ := fits_of_read h
      obtain ⟨behind, rfl, hafter, hfits⟩ := ih hrest.symm
      exact ⟨behind, by simp, hafter, hfits⟩

theorem exists_fits_of_mem (cs : List Char) {l : Lexeme} (mem : l ∈ read cs) :
    ∃ behind, l.Fits behind := by
  obtain ⟨before, after, hsplit⟩ := List.append_of_mem mem
  obtain ⟨behind, -, -, hfits⟩ := fits_of_split hsplit
  exact ⟨behind, hfits⟩

/-! ## Tokens -/

/-- A lexeme that counts as a token. -/
def isToken (l : Lexeme) : Bool := l.kind?.isSome

/-- **The tokens of a text**: all its lexemes but the blanks. -/
def tokens (cs : List Char) : List Lexeme := (read cs).filter isToken

/-- **Tokens cover a text**: they stand in it one behind another, none of them is empty, and there are
only blanks besides. -/
inductive Covers : List Lexeme → List Char → Prop
  | nil {gap : List Char} (hgap : ∀ c ∈ gap, isBlank c = true) : Covers [] gap
  | cons {gap rest : List Char} {t : Lexeme} {ts : List Lexeme} (hgap : ∀ c ∈ gap, isBlank c = true)
      (htoken : t.chars ≠ []) (h : Covers ts rest) : Covers (t :: ts) (gap ++ t.chars ++ rest)

/-- One more blank ahead. -/
theorem Covers.blank {ts : List Lexeme} {cs : List Char} (h : Covers ts cs) {c : Char}
    (hc : isBlank c = true) : Covers ts (c :: cs) := by
  cases h with
  | nil hgap => exact .nil (List.forall_mem_cons.mpr ⟨hc, hgap⟩)
  | cons hgap htoken h => exact .cons (List.forall_mem_cons.mpr ⟨hc, hgap⟩) htoken h

/-- **Lexemes that fit cover their characters**, without the blanks among them. -/
theorem covers_filter {ls : List Lexeme} (h : ∀ l ∈ ls, ∃ behind, l.Fits behind) :
    Covers (ls.filter isToken) (ls.flatMap chars) := by
  induction ls with
  | nil => exact .nil (by simp)
  | cons l ls ih =>
      obtain ⟨⟨behind, hfits⟩, hrest⟩ := List.forall_mem_cons.mp h
      rw [List.flatMap_cons]
      by_cases htoken : l.isToken = true
      · rw [List.filter_cons_of_pos htoken]
        have hcovers := ih hrest
        rw [← List.nil_append l.chars]
        exact .cons (by simp) (chars_ne_nil hfits) hcovers
      · rw [List.filter_cons_of_neg htoken]
        cases l with
        | blank c => exact (ih hrest).blank hfits
        | _ => exact absurd rfl htoken

/-- What covers a text has no more tokens than the text has characters. -/
theorem Covers.length_le {ts : List Lexeme} {cs : List Char} (h : Covers ts cs) :
    ts.length ≤ cs.length := by
  induction h with
  | nil => simp
  | cons _ htoken _ ih =>
      have := List.length_pos_iff.mpr htoken
      simp only [List.length_cons, List.length_append]
      omega

/-- **Every token is counted once**, as what it is. -/
theorem map_kinds (text : String) :
    (kinds text).map some = (tokens text.toList).map kind? := by
  unfold kinds tokens
  induction read text.toList with
  | nil => rfl
  | cons l ls ih =>
      cases hkind : l.kind? with
      | none => simp [isToken, hkind, ih]
      | some kind => simp [isToken, hkind, ih]

/-- **A token anywhere in a text**, with the text ahead of it and behind it. -/
theorem fits_of_tokens {cs : List Char} {t : Lexeme} {before after : List Lexeme}
    (h : tokens cs = before ++ t :: after) :
    ∃ ahead behind, cs = ahead ++ t.chars ++ behind ∧ Covers before ahead ∧
      tokens behind = after ∧ t.Fits behind := by
  obtain ⟨ls, rest, hread, rfl, hrest⟩ := List.filter_eq_append_iff.mp h
  obtain ⟨blanks, more, rfl, hblanks, -, rfl⟩ := List.filter_eq_cons_iff.mp hrest
  -- The blanks between the token and the one before it go to what stands ahead.
  have hsplit : read cs = (ls ++ blanks) ++ t :: more := by
    rw [hread, List.append_assoc]
  obtain ⟨behind, hcs, hmore, hfits⟩ := fits_of_split hsplit
  have hall : ∀ l ∈ ls ++ blanks, ∃ behind, l.Fits behind := by
    intro l mem
    refine exists_fits_of_mem cs ?_
    rw [hsplit]
    exact List.mem_append_left _ mem
  have hfilter : (ls ++ blanks).filter isToken = ls.filter isToken := by
    rw [List.filter_append, List.filter_eq_nil_iff.mpr hblanks, List.append_nil]
  refine ⟨(ls ++ blanks).flatMap chars, behind, hcs, ?_, ?_, hfits⟩
  · rw [← hfilter]
    exact covers_filter hall
  · rw [hmore]
    rfl

theorem length_kinds (text : String) : (kinds text).length = (tokens text.toList).length := by
  have hlength := congrArg List.length (map_kinds text)
  rwa [List.length_map, List.length_map] at hlength

/-- **The invalid tokens** are the quotes that stand alone. -/
theorem count_kinds (text : String) :
    (kinds text).count .invalid = (tokens text.toList).count .loneQuote := by
  unfold kinds tokens
  induction read text.toList with
  | nil => rfl
  | cons l ls ih =>
      cases l with
      | blank c => exact ih
      | loneQuote =>
          rw [List.filterMap_cons_some (show kind? .loneQuote = some .invalid from rfl),
            List.filter_cons_of_pos (by rfl), List.count_cons_self, List.count_cons_self, ih]
      | word cs | number cs | literal cs | symbol c =>
          rw [List.filterMap_cons_some (show kind? _ = some .token from rfl),
            List.filter_cons_of_pos (by rfl), List.count_cons_of_ne (by simp),
            List.count_cons_of_ne (by simp), ih]

/-- **The line that is written about a file** when its tokens are counted, and nothing else is done. -/
theorem perform_tokenizeFile {σ : Type} (c : Collaborators σ) (path : Path) (text : String)
    (s : Session σ) :
    perform (Stage.tokenizeFile { c with frontend := Host.scanFrontend } path text) s =
      (.ok (), { s with bench := { s.bench with
        desk := { s.bench.desk with transcript := s.bench.desk.transcript ++
          [.output (Stage.tokenCount (kinds text))] }
        journal := s.bench.journal ++ [⟨.tokens path, ⟨s.engine.errors, true⟩⟩] } }) := rfl

/-- **Lexing covers the text.**  The tokens of a text stand in it one behind another, none of them
empty, and only blanks stand outside; a token holds a blank only if it is a closed literal, and never a line
feed.  Wherever a token stands, the text behind it is lexed next, from its first character on, and the
token is invalid if and only if it is a quote behind which no literal is closed.  So there are no more
tokens than characters, and the line about a file counts each of them once. -/
theorem tokens_cover {σ : Type} (c : Collaborators σ) (path : Path) (text : String) (s : Session σ) :
    (kinds text).map some = (tokens text.toList).map kind? ∧
      Covers (tokens text.toList) text.toList ∧
      (∀ t ∈ tokens text.toList, (∃ c ∈ t.chars, isBlank c = true) → IsLiteral t.chars) ∧
      (∀ t ∈ tokens text.toList, '\n' ∉ t.chars) ∧
      (∀ before t after, tokens text.toList = before ++ t :: after →
        ∃ ahead behind, text.toList = ahead ++ t.chars ++ behind ∧ Covers before ahead ∧
          tokens behind = after ∧ t.Fits behind ∧
          (t.kind? = some .invalid ↔ t.chars = ['\x22'] ∧ ¬ Closes behind)) ∧
      (kinds text).length ≤ text.length ∧
      perform (Stage.tokenizeFile { c with frontend := Host.scanFrontend } path text) s =
        (.ok (), { s with bench := { s.bench with
          desk := { s.bench.desk with transcript := s.bench.desk.transcript ++
            [.output ("Tokenized: " ++ toString (tokens text.toList).length ++ " found " ++
              toString ((tokens text.toList).count .loneQuote) ++ " errors")] }
          journal := s.bench.journal ++ [⟨.tokens path, ⟨s.engine.errors, true⟩⟩] } }) := by
  have hcovers : Covers (tokens text.toList) text.toList := by
    have hread := covers_filter fun l mem => exists_fits_of_mem text.toList mem
    rwa [flatMap_chars_read] at hread
  have htoken : ∀ t ∈ tokens text.toList, (∃ behind, t.Fits behind) ∧ t.kind?.isSome = true := by
    intro t mem
    obtain ⟨mem, hsome⟩ := List.mem_filter.mp mem
    exact ⟨exists_fits_of_mem _ mem, hsome⟩
  refine ⟨map_kinds text, hcovers, ?_, ?_, ?_, ?_, ?_⟩
  · rintro t mem ⟨d, hd, hblank⟩
    obtain ⟨⟨behind, hfits⟩, hsome⟩ := htoken t mem
    exact isLiteral_of_blank hfits hsome hd hblank
  · intro t mem
    obtain ⟨⟨behind, hfits⟩, hsome⟩ := htoken t mem
    exact lineFeed_notMem_chars hfits hsome
  · intro before t after hsplit
    obtain ⟨ahead, behind, htext, hahead, hbehind, hfits⟩ := fits_of_tokens hsplit
    exact ⟨ahead, behind, htext, hahead, hbehind, hfits, kind?_eq_invalid_iff hfits⟩
  · rw [length_kinds, ← String.length_toList]
    exact hcovers.length_le
  · rw [perform_tokenizeFile, Stage.tokenCount, length_kinds, count_kinds]

/-- A quote that the end of a line leaves open stands alone, and the next character is lexed as ever. -/
example : kinds "a \"b\n\"c d\"" = [.token, .invalid, .token, .token] := by decide +kernel

end BatchCompiler.Lexeme

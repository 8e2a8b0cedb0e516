import BatchCompiler.Collaborator.Basic
import BatchCompiler.Text.Word

/-!
# Lexemes

A text falls into blanks, words, numbers, string literals and single symbols, one after another.  A
literal ends at the next quote that no backslash escapes, on the same line; a quote that opens no
such literal stands alone and is no valid token.

## Main definitions

* `Lexeme.read` — the lexemes of a text; their characters concatenate to the text
* `Lexeme.kinds` — the tokens as they are counted: every lexeme but the blanks
-/

namespace BatchCompiler

/-- **A lexeme.** -/
inductive Lexeme where
  | blank (c : Char)
  | word (chars : List Char)
  | number (chars : List Char)
  /-- A closed literal, quotes included. -/
  | literal (chars : List Char)
  /-- A quote that opens no literal. -/
  | loneQuote
  | symbol (c : Char)
deriving DecidableEq, Repr

namespace Lexeme

/-- The characters of a lexeme. -/
def chars : Lexeme → List Char
  | .blank c => [c]
  | .word cs => cs
  | .number cs => cs
  | .literal cs => cs
  | .loneQuote => ['\x22']
  | .symbol c => [c]

/-- The token that a lexeme is; blanks are none. -/
def kind? : Lexeme → Option TokenKind
  | .blank _ => none
  | .loneQuote => some .invalid
  | _ => some .token

/-- **The rest of a literal** after its opening quote, closing quote included, and what follows. -/
def closeLiteral? : List Char → Option (List Char × List Char)
  | [] => none
  | '\x22' :: rest => some (['\x22'], rest)
  | '\n' :: _ => none
  | ['\\'] => none
  | '\\' :: c :: rest =>
      if c = '\n' then none
      else (closeLiteral? rest).map fun (body, after) => ('\\' :: c :: body, after)
  | c :: rest => (closeLiteral? rest).map fun (body, after) => (c :: body, after)

/-- A closed literal is cut off the front. -/
theorem append_of_closeLiteral? {cs body after : List Char}
    (h : closeLiteral? cs = some (body, after)) : cs = body ++ after := by
  fun_induction closeLiteral? cs generalizing body after with
  | case1 => simp at h
  | case2 rest =>
      simp only [Option.some.injEq, Prod.mk.injEq] at h
      simp [← h.1, ← h.2]
  | case3 => simp at h
  | case4 => simp at h
  | case5 => simp at h
  | case6 c rest _ ih =>
      simp only [Option.map_eq_some_iff, Prod.exists, Prod.mk.injEq] at h
      obtain ⟨body', after', hr, rfl, rfl⟩ := h
      simp [ih hr]
  | case7 c rest _ _ _ _ ih =>
      simp only [Option.map_eq_some_iff, Prod.exists, Prod.mk.injEq] at h
      obtain ⟨body', after', hr, rfl, rfl⟩ := h
      simp [ih hr]

/-- What follows a closed literal is shorter. -/
theorem length_le_of_closeLiteral? {cs body after : List Char}
    (h : closeLiteral? cs = some (body, after)) : after.length ≤ cs.length := by
  simp [append_of_closeLiteral? h]

/-- Dropping characters from the front does not make a list longer. -/
theorem length_dropWhile_le (p : Char → Bool) (cs : List Char) :
    (cs.dropWhile p).length ≤ cs.length :=
  (List.dropWhile_sublist p).length_le

/-- **The lexemes of a text.** -/
def read : List Char → List Lexeme
  | [] => []
  | c :: rest =>
      if Text.isBlank c then .blank c :: read rest
      else if Text.startsName c then
        .word (c :: rest.takeWhile Text.continuesName) :: read (rest.dropWhile Text.continuesName)
      else if Text.continuesNumeral c then
        .number (c :: rest.takeWhile Text.continuesNumeral) ::
          read (rest.dropWhile Text.continuesNumeral)
      else if c = '\x22' then
        match _closed : closeLiteral? rest with
        | some (body, after) => .literal (c :: body) :: read after
        | none => .loneQuote :: read rest
      else .symbol c :: read rest
termination_by cs => cs.length
decreasing_by
  all_goals simp_wf
  · have := length_dropWhile_le Text.continuesName rest
    omega
  · have := length_dropWhile_le Text.continuesNumeral rest
    omega
  · have := length_le_of_closeLiteral? _closed
    omega

/-- **The tokens of a text**, to its end. -/
def kinds (text : String) : List TokenKind := (read text.toList).filterMap kind?

end Lexeme

end BatchCompiler

import Mathlib.Data.List.Basic
import BatchCompiler.ResponseFile.Token

/-!
# Writing arguments between quotes

What `tokenize` undoes.  An argument can be written as spans between quotes, a line as arguments with
blanks between them, a text as lines with a line feed between them, bare or behind a carriage return.
There are many such writings of the same arguments: how the argument is cut into spans, which quote a
span takes, how many blanks stand where.  Every one of them is read back as the arguments written, and
nothing but such arguments is ever read, from any text.

## Main definitions

* `Argument` — what a response file can hold
* `Spells`, `LineWrites`, `Writes` — the writings of an argument, of a line, and of lines

## Main statements

* `lineTokens_of_lineWrites` — a line is read back
* `tokenize_of_writes` — lines are read back
* `exists_writes` — all lines have a writing
* `tokenize_writings` — the round trip, with what holds of the arguments of any text
-/

namespace BatchCompiler.ResponseFile

/-- **An argument that a response file can hold**: not empty, and on one line. -/
structure Argument where
  text : String
  ne_empty : text ≠ ""
  oneLine : '\n' ∉ text.toList

/-- **Spans that spell a text**, one after the other: each stands between two quotes of a kind that it
does not contain. -/
inductive Spells : (text written : List Char) → Prop
  | nil : Spells [] []
  | span {quote : Char} {text more written : List Char} (quotes : isQuote quote)
      (free : quote ∉ text) (rest : Spells more written) :
      Spells (text ++ more) (quote :: (text ++ quote :: written))

/-- So many blanks. -/
def blanks (n : Nat) : List Char := List.replicate n ' '

/-- **A line is written**: blanks may stand anywhere but in an argument, and one at least between two
arguments. -/
inductive LineWrites : List Argument → List Char → Prop
  | blank (n : Nat) : LineWrites [] (blanks n)
  | last (n : Nat) {argument : Argument} {written : List Char}
      (spelled : Spells argument.text.toList written) : LineWrites [argument] (blanks n ++ written)
  | cons (n : Nat) {argument : Argument} {written : List Char} {line : List Argument}
      {rest : List Char} (spelled : Spells argument.text.toList written)
      (behind : LineWrites line rest) :
      LineWrites (argument :: line) (blanks n ++ (written ++ ' ' :: rest))

/-- **Lines are written**: the last may go without a line feed. -/
inductive Writes : List (List Argument) → List Char → Prop
  | nil : Writes [] []
  | last {line : List Argument} {written : List Char} (isLine : LineWrites line written) :
      Writes [line] written
  | lineFeed {line : List Argument} {lines : List (List Argument)} {written rest : List Char}
      (isLine : LineWrites line written) (behind : Writes lines rest) :
      Writes (line :: lines) (written ++ '\n' :: rest)
  | carriageReturn {line : List Argument} {lines : List (List Argument)} {written rest : List Char}
      (isLine : LineWrites line written) (behind : Writes lines rest) :
      Writes (line :: lines) (written ++ '\r' :: '\n' :: rest)

/-! ## Reading a line back -/

/-- The quote that opened a span closes it. -/
theorem lineTokens_closing {quote : Char} {text : List Char} (free : quote ∉ text)
    (carry rest : List Char) :
    lineTokens (some quote) carry (text ++ quote :: rest) =
      lineTokens none (text.reverse ++ carry) rest := by
  induction text generalizing carry with
  | nil => simp [lineTokens]
  | cons c text ih =>
      rw [List.mem_cons, not_or] at free
      rw [List.cons_append, lineTokens, if_neg (Ne.symm free.1), ih free.2, List.reverse_cons,
        List.append_assoc, List.singleton_append]

/-- Spans add what they spell to the open argument, whatever is open. -/
theorem lineTokens_of_spells {text written : List Char} (h : Spells text written)
    (carry rest : List Char) :
    lineTokens none carry (written ++ rest) = lineTokens none (text.reverse ++ carry) rest := by
  induction h generalizing carry with
  | nil => rfl
  | @span quote text more written quotes free _ ih =>
      rw [List.cons_append, List.append_assoc, List.cons_append, lineTokens, if_pos quotes,
        lineTokens_closing free, ih, List.reverse_append, List.append_assoc]

/-- Blanks add nothing where no argument is open. -/
theorem lineTokens_blanks (n : Nat) (rest : List Char) :
    lineTokens none [] (blanks n ++ rest) = lineTokens none [] rest := by
  induction n with
  | zero => rfl
  | succ n ih => simpa [blanks, List.replicate_succ, lineTokens, isQuote, finish] using ih

theorem Argument.finish_text (argument : Argument) :
    finish argument.text.toList.reverse = [argument.text.toList] := by
  have hne : argument.text.toList ≠ [] := by
    simpa using argument.ne_empty
  simp [finish, hne]

/-- **A line is read back.** -/
theorem lineTokens_of_lineWrites {line : List Argument} {written : List Char}
    (h : LineWrites line written) :
    lineTokens none [] written = line.map fun argument => argument.text.toList := by
  induction h with
  | blank n =>
      rw [← List.append_nil (blanks n), lineTokens_blanks]
      rfl
  | @last n argument written spelled =>
      rw [lineTokens_blanks, ← List.append_nil written, lineTokens_of_spells spelled,
        List.append_nil, lineTokens, argument.finish_text]
      rfl
  | @cons n argument written line rest spelled _ ih =>
      rw [lineTokens_blanks, lineTokens_of_spells spelled, List.append_nil, List.map_cons, ← ih]
      simp [lineTokens, isQuote, argument.finish_text]

/-! ## Reading lines back -/

/-- **A written line is not cut short**: it holds no line feed, and does not end in a carriage return
that would be taken for a part of the line feed behind it. -/
structure EndsClean (written : List Char) : Prop where
  oneLine : '\n' ∉ written
  noReturn : written.getLast? ≠ some '\r'

theorem endsClean_nil : EndsClean [] := ⟨by simp, by simp⟩

theorem EndsClean.append {ahead behind : List Char} (hahead : EndsClean ahead)
    (hbehind : EndsClean behind) : EndsClean (ahead ++ behind) := by
  constructor
  · rw [List.mem_append, not_or]
    exact ⟨hahead.oneLine, hbehind.oneLine⟩
  · rw [List.getLast?_append]
    cases hlast : behind.getLast? with
    | none => simpa using hahead.noReturn
    | some c => simpa [hlast] using hbehind.noReturn

/-- Behind a character that breaks no line a clean end stays one, whatever is ahead of it. -/
theorem EndsClean.behind {c : Char} {ahead written : List Char} (h : EndsClean written)
    (hahead : '\n' ∉ ahead) (hbreak : c ≠ '\n') (hreturn : c ≠ '\r') :
    EndsClean (ahead ++ c :: written) := by
  constructor
  · simp [hahead, h.oneLine, Ne.symm hbreak]
  · have hlast := h.noReturn
    cases hwritten : written.getLast? with
    | none => simp [List.getLast?_cons, hwritten, hreturn]
    | some last => simpa [List.getLast?_cons, hwritten] using hlast

theorem endsClean_blanks (n : Nat) : EndsClean (blanks n) := by
  constructor
  · simp [blanks]
  · simp [blanks, List.getLast?_replicate]

theorem Spells.endsClean {text written : List Char} (h : Spells text written)
    (oneLine : '\n' ∉ text) : EndsClean written := by
  induction h with
  | nil => exact endsClean_nil
  | @span quote text more written quotes _ _ ih =>
      rw [List.mem_append, not_or] at oneLine
      have hbreak : quote ≠ '\n' := by
        rintro rfl
        simp [isQuote] at quotes
      have hreturn : quote ≠ '\r' := by
        rintro rfl
        simp [isQuote] at quotes
      have hahead : '\n' ∉ quote :: text := by simp [oneLine.1, Ne.symm hbreak]
      exact (ih oneLine.2).behind hahead hbreak hreturn

theorem LineWrites.endsClean {line : List Argument} {written : List Char}
    (h : LineWrites line written) : EndsClean written := by
  induction h with
  | blank n => exact endsClean_blanks n
  | @last n argument written spelled =>
      exact (endsClean_blanks n).append (spelled.endsClean argument.oneLine)
  | @cons n argument written line rest spelled _ ih =>
      have hspelled := spelled.endsClean argument.oneLine
      exact (endsClean_blanks n).append (ih.behind hspelled.oneLine (by decide) (by decide))

/-- The text up to a line feed is the open line. -/
theorem linesFrom_append {written : List Char} (oneLine : '\n' ∉ written) (carry rest : List Char) :
    Text.linesFrom carry (written ++ rest) = Text.linesFrom (written.reverse ++ carry) rest := by
  induction written generalizing carry with
  | nil => rfl
  | cons c written ih =>
      rw [List.mem_cons, not_or] at oneLine
      rw [List.cons_append, Text.linesFrom, if_neg (Ne.symm oneLine.1), ih oneLine.2,
        List.reverse_cons, List.append_assoc, List.singleton_append]

theorem EndsClean.dropReturn_reverse {written : List Char} (h : EndsClean written) :
    Text.dropReturn written.reverse = written.reverse := by
  have hlast := h.noReturn
  rw [← List.head?_reverse] at hlast
  unfold Text.dropReturn
  split
  · rename_i heq
    simp [heq] at hlast
  · rfl

/-- A line feed ends a line, … -/
theorem EndsClean.linesFrom_lineFeed {written : List Char} (h : EndsClean written)
    (rest : List Char) :
    Text.linesFrom [] (written ++ '\n' :: rest) = written :: Text.linesFrom [] rest := by
  rw [linesFrom_append h.oneLine, Text.linesFrom, if_pos rfl, List.append_nil,
    h.dropReturn_reverse, List.reverse_reverse]

/-- … a carriage return right before it too, … -/
theorem EndsClean.linesFrom_carriageReturn {written : List Char} (h : EndsClean written)
    (rest : List Char) :
    Text.linesFrom [] (written ++ '\r' :: '\n' :: rest) = written :: Text.linesFrom [] rest := by
  rw [linesFrom_append h.oneLine]
  simp [Text.linesFrom, Text.dropReturn]

/-- … and so does the end of the text, which is no line of its own behind a line feed. -/
theorem EndsClean.linesFrom_end {written : List Char} (h : EndsClean written) :
    Text.linesFrom [] written = if written = [] then [] else [written] := by
  rw [← List.append_nil written, linesFrom_append h.oneLine]
  simp [Text.linesFrom]

/-- **Lines are read back.** -/
theorem lineTokens_of_writes {lines : List (List Argument)} {written : List Char}
    (h : Writes lines written) :
    (Text.linesFrom [] written).flatMap (lineTokens none []) =
      lines.flatten.map fun argument => argument.text.toList := by
  induction h with
  | nil => rfl
  | @last line written isLine =>
      rw [isLine.endsClean.linesFrom_end, List.flatten_singleton, ← lineTokens_of_lineWrites isLine]
      split
      · rename_i hempty
        simp [hempty, lineTokens, finish]
      · simp
  | @lineFeed line lines written rest isLine _ ih =>
      rw [isLine.endsClean.linesFrom_lineFeed, List.flatMap_cons, ih,
        lineTokens_of_lineWrites isLine, List.flatten_cons, List.map_append]
  | @carriageReturn line lines written rest isLine _ ih =>
      rw [isLine.endsClean.linesFrom_carriageReturn, List.flatMap_cons, ih,
        lineTokens_of_lineWrites isLine, List.flatten_cons, List.map_append]

theorem tokenize_of_writes {lines : List (List Argument)} {text : String}
    (h : Writes lines text.toList) : tokenize text = lines.flatten.map Argument.text := by
  unfold tokenize Text.lines
  rw [lineTokens_of_writes h, List.map_map]
  exact List.map_congr_left fun argument _ => String.ofList_toList

/-! ## A writing for all lines -/

/-- A quote that is not the character. -/
def otherQuote (c : Char) : Char := if c = '\x22' then '\x27' else '\x22'

/-- One span for each character will do. -/
theorem exists_spells (text : List Char) : ∃ written, Spells text written := by
  induction text with
  | nil => exact ⟨[], .nil⟩
  | cons c text ih =>
      obtain ⟨written, hwritten⟩ := ih
      have hquote : isQuote (otherQuote c) = true := by
        unfold otherQuote isQuote
        split <;> decide
      have hfree : otherQuote c ∉ [c] := by
        rw [List.mem_singleton]
        unfold otherQuote
        split
        · rename_i heq
          rw [heq]
          decide
        · rename_i hne
          exact Ne.symm hne
      exact ⟨_, .span hquote hfree hwritten⟩

theorem exists_lineWrites (line : List Argument) : ∃ written, LineWrites line written := by
  induction line with
  | nil => exact ⟨_, .blank 0⟩
  | cons argument line ih =>
      obtain ⟨rest, hrest⟩ := ih
      obtain ⟨written, spelled⟩ := exists_spells argument.text.toList
      exact ⟨_, .cons 0 spelled hrest⟩

theorem exists_writes (lines : List (List Argument)) : ∃ text : String, Writes lines text.toList := by
  suffices h : ∃ written, Writes lines written by
    obtain ⟨written, hwritten⟩ := h
    exact ⟨String.ofList written, by rwa [String.toList_ofList]⟩
  induction lines with
  | nil => exact ⟨_, .nil⟩
  | cons line lines ih =>
      obtain ⟨rest, hrest⟩ := ih
      obtain ⟨written, isLine⟩ := exists_lineWrites line
      exact ⟨_, .lineFeed isLine hrest⟩

/-! ## What any text is read as -/

theorem mem_finish {carry token : List Char} (mem : token ∈ finish carry) :
    token ≠ [] ∧ ∀ c ∈ token, c ∈ carry := by
  unfold finish at mem
  split at mem
  · cases mem
  · rename_i hcarry
    rw [List.mem_singleton] at mem
    subst mem
    exact ⟨by simpa using hcarry, by simp⟩

/-- An argument is not empty, and all of it stands in the line. -/
theorem mem_lineTokens {open? : Option Char} {carry line token : List Char}
    (mem : token ∈ lineTokens open? carry line) :
    token ≠ [] ∧ ∀ c ∈ token, c ∈ carry ∨ c ∈ line := by
  -- What is put out is a carry that has come to its end; a character read joins the carry or is gone.
  fun_induction lineTokens open? carry line with
  | case1 open? carry =>
      obtain ⟨hne, hcarry⟩ := mem_finish mem
      exact ⟨hne, fun c hc => Or.inl (hcarry c hc)⟩
  | case2 carry rest quote ih =>
      exact ⟨(ih mem).1, fun c hc => ((ih mem).2 c hc).imp_right (List.mem_cons_of_mem _)⟩
  | case3 carry d rest quote hd ih =>
      refine ⟨(ih mem).1, fun c hc => ?_⟩
      simpa [or_assoc, or_left_comm] using (ih mem).2 c hc
  | case4 carry d rest hquote ih =>
      exact ⟨(ih mem).1, fun c hc => ((ih mem).2 c hc).imp_right (List.mem_cons_of_mem _)⟩
  | case5 carry rest hquote ih =>
      rcases List.mem_append.mp mem with mem | mem
      · obtain ⟨hne, hcarry⟩ := mem_finish mem
        exact ⟨hne, fun c hc => Or.inl (hcarry c hc)⟩
      · refine ⟨(ih mem).1, fun c hc => ?_⟩
        rcases (ih mem).2 c hc with hc | hc
        · cases hc
        · exact Or.inr (List.mem_cons_of_mem _ hc)
  | case6 carry d rest hquote hblank ih =>
      refine ⟨(ih mem).1, fun c hc => ?_⟩
      simpa [or_assoc, or_left_comm] using (ih mem).2 c hc

/-- No line holds a line feed. -/
theorem oneLine_of_mem_linesFrom {carry cs line : List Char} (hcarry : '\n' ∉ carry)
    (mem : line ∈ Text.linesFrom carry cs) : '\n' ∉ line := by
  induction cs generalizing carry with
  | nil =>
      obtain ⟨-, hline⟩ := mem_finish mem
      exact fun hc => hcarry (hline _ hc)
  | cons c rest ih =>
      rw [Text.linesFrom] at mem
      split at mem
      · rcases List.mem_cons.mp mem with rfl | mem
        · rw [List.mem_reverse]
          unfold Text.dropReturn
          split
          · exact fun hc => hcarry (List.mem_cons_of_mem _ hc)
          · exact hcarry
        · exact ih (List.not_mem_nil) mem
      · rename_i hbreak
        refine ih (fun hc => ?_) mem
        rcases List.mem_cons.mp hc with heq | hc
        · exact hbreak heq.symm
        · exact hcarry hc

theorem mem_tokenize {text token : String} (mem : token ∈ tokenize text) :
    token ≠ "" ∧ '\n' ∉ token.toList := by
  unfold tokenize at mem
  obtain ⟨cs, hcs, rfl⟩ := List.mem_map.mp mem
  obtain ⟨line, hline, hcs⟩ := List.mem_flatMap.mp hcs
  obtain ⟨hne, hfrom⟩ := mem_lineTokens hcs
  constructor
  · simpa using hne
  · rw [String.toList_ofList]
    intro hc
    rcases hfrom _ hc with hc | hc
    · cases hc
    · exact oneLine_of_mem_linesFrom List.not_mem_nil hline hc

/-- **The tokenizer reads back whatever is written between quotes.**  Every writing of lines of
arguments is read as these arguments in their order, and all lines of arguments have a writing.  Of any
text whatsoever only such arguments are read: none is empty and none holds a line feed. -/
theorem tokenize_writings :
    (∀ (lines : List (List Argument)) (text : String), Writes lines text.toList →
      tokenize text = lines.flatten.map Argument.text) ∧
    (∀ lines : List (List Argument), ∃ text : String, Writes lines text.toList) ∧
    (∀ text token : String, token ∈ tokenize text → token ≠ "" ∧ '\n' ∉ token.toList) :=
  ⟨fun _ _ => tokenize_of_writes, exists_writes, fun _ _ => mem_tokenize⟩

/-- Two lines, the first ended by a carriage return and a line feed.  An argument with quotes of both
kinds takes two spans, a span may be empty, and a blank inside a span separates nothing. -/
theorem tokenize_writings_two_lines :
    tokenize " \"it's \"'\"so\"'  'b'\r\n''\"c\"" = ["it's \"so\"", "b", "c"] := by
  let so : Argument := ⟨"it's \"so\"", by decide, by decide⟩
  let b : Argument := ⟨"b", by decide, by decide⟩
  let c : Argument := ⟨"c", by decide, by decide⟩
  have hdouble : isQuote '\x22' = true := rfl
  have hsingle : isQuote '\x27' = true := rfl
  have hso : Spells so.text.toList "\"it's \"'\"so\"'".toList := by
    have h := Spells.span hdouble (by decide : '\x22' ∉ ['i', 't', '\x27', 's', ' '])
      (.span hsingle (by decide : '\x27' ∉ ['\x22', 's', 'o', '\x22']) .nil)
    simpa [so] using h
  have hb : Spells b.text.toList "'b'".toList := by
    have h := Spells.span hsingle (by decide : '\x27' ∉ ['b']) .nil
    simpa [b] using h
  have hc : Spells c.text.toList "''\"c\"".toList := by
    have h := Spells.span hsingle (by decide : '\x27' ∉ [])
      (.span hdouble (by decide : '\x22' ∉ ['c']) .nil)
    simpa [c] using h
  have hlines := Writes.carriageReturn (.cons 1 hso (.last 1 hb)) (.last (.last 0 hc))
  refine tokenize_writings.1 [[so, b], [c]] _ ?_
  simpa [blanks] using hlines

end BatchCompiler.ResponseFile

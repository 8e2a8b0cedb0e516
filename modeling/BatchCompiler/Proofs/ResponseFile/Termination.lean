import BatchCompiler.Proofs.ResponseFile.Queue

/-!
# Expansion ends

The list of arguments grows while the cursor walks it, and one file has as many names as paths lead to
it, so neither the arguments ahead nor the files left bound an expansion.  The names do: only names
given or written in some file can be read, and none is read twice.

To count steps, expansion is taken apart into *moves*.  What the next move is depends on the names seen
and the arguments alone.  A file's text comes in only by asking for it, so the names asked for are all
the reading an expansion does, and a file without a text is asked for like any other.

## Main definitions

* `Cursor.move` — what an expansion does next
* `Cursor.run` — as many moves as allowed, with the names asked for
* `moveLimit` — how many moves are always enough

## Main statements

* `endsWith_expandFrom` — within the limit the moves come to the end of `expandFrom`
* `expansion_ends` — expansion ends, and reads no name twice
-/

namespace BatchCompiler.ResponseFile

/-- **Where an expansion stands**: the names seen, the arguments passed, and those ahead. -/
structure Cursor where
  seen : List String
  passed : List String
  ahead : List String

/-- **How an expansion ends**: its answer, and the names seen by then. -/
structure Ending where
  answer : Except ArgumentError (List String)
  seen : List String

/-- **What an expansion does next.** -/
inductive Move where
  | ends (ending : Ending)
  /-- The cursor goes over an argument. -/
  | passes (next : Cursor)
  /-- A file is asked for its text: with one the expansion goes on, without one it ends. -/
  | asks (file : String) (noText : Ending) (goOn : String → Cursor)

/-- **The next move.**  No file system is at hand, so `Move.asks` is the only way to what files hold. -/
def Cursor.move (c : Cursor) : Move :=
  match c.ahead with
  | [] => .ends ⟨.ok c.passed, c.seen⟩
  | arg :: rest =>
      if arg = separator then .ends ⟨.ok (c.passed ++ arg :: rest), c.seen⟩
      else
        match fileNamed? arg with
        | none => .passes ⟨c.seen, c.passed ++ [arg], rest⟩
        | some file =>
            if file ∈ c.seen then .ends ⟨.error (.duplicateResponseFile file), c.seen⟩
            else
              .asks file ⟨.error (.unreadableResponseFile file), c.seen ++ [file]⟩ fun text =>
                ⟨c.seen ++ [file], c.passed, spliceBeforeSeparator rest (tokenize text)⟩

/-- **At most so many moves**: the names asked for, in order, and the ending, or nothing if the moves
do not suffice. -/
def Cursor.run (fs : FileSystem) (moves : Nat) (c : Cursor) : Option (List String × Ending) :=
  match moves with
  | 0 => none
  | moves + 1 =>
      match c.move with
      | .ends ending => some ([], ending)
      | .passes next => next.run fs moves
      | .asks file noText goOn =>
          match fs.readText? ⟨file⟩ with
          | none => some ([file], noText)
          | some text => ((goOn text).run fs moves).map fun (asked, ending) => (file :: asked, ending)

/-- **Moves ahead of the last one**, at most: each takes an argument away, and a file that is read for
the first time adds at most what is written in all of them. -/
def moveLimit (fs : FileSystem) (names args : List String) : Nat :=
  args.length + names.length * (writtenTokens fs).length

/-- The ending that `expandFrom` tells of. -/
def Outcome.ending (o : Outcome) : Ending := ⟨o.result, o.seen⟩

/-- An ending that so many moves reach stays the same for more. -/
theorem Cursor.run_add {fs : FileSystem} {moves : Nat} {c : Cursor} {told : List String × Ending}
    (h : c.run fs moves = some told) (more : Nat) : c.run fs (moves + more) = some told := by
  induction moves generalizing c told with
  | zero => cases h
  | succ moves ih =>
      rw [Nat.add_right_comm]
      unfold Cursor.run at h ⊢
      cases hmove : c.move with
      | ends ending => simpa only [hmove] using h
      | passes next =>
          simp only [hmove] at h ⊢
          exact ih h
      | asks file noText goOn =>
          simp only [hmove] at h ⊢
          cases htext : fs.readText? ⟨file⟩ with
          | none => simpa only [htext] using h
          | some text =>
              simp only [htext, Option.map_eq_some_iff] at h ⊢
              obtain ⟨rest, hrest, rfl⟩ := h
              exact ⟨rest, ih hrest, rfl⟩

/-! ## The next move -/

theorem move_separator (seen passed rest : List String) :
    Cursor.move ⟨seen, passed, separator :: rest⟩ = .ends ⟨.ok (passed ++ separator :: rest), seen⟩ := by
  simp [Cursor.move]

section Named

variable {seen passed rest : List String} {arg file : String}

theorem move_plain (h : arg ≠ separator) (hplain : fileNamed? arg = none) :
    Cursor.move ⟨seen, passed, arg :: rest⟩ = .passes ⟨seen, passed ++ [arg], rest⟩ := by
  simp [Cursor.move, h, hplain]

theorem move_duplicate (h : arg ≠ separator) (hnamed : fileNamed? arg = some file)
    (known : file ∈ seen) :
    Cursor.move ⟨seen, passed, arg :: rest⟩ = .ends ⟨.error (.duplicateResponseFile file), seen⟩ := by
  simp [Cursor.move, h, hnamed, known]

theorem move_new (h : arg ≠ separator) (hnamed : fileNamed? arg = some file)
    (isNew : file ∉ seen) :
    Cursor.move ⟨seen, passed, arg :: rest⟩ =
      .asks file ⟨.error (.unreadableResponseFile file), seen ++ [file]⟩ fun text =>
        ⟨seen ++ [file], passed, spliceBeforeSeparator rest (tokenize text)⟩ := by
  simp [Cursor.move, h, hnamed, isNew]

end Named

/-! ## The limit -/

theorem moveLimit_cons (fs : FileSystem) (names rest : List String) (arg : String) :
    moveLimit fs names (arg :: rest) = moveLimit fs names rest + 1 := by
  unfold moveLimit
  rw [List.length_cons]
  omega

/-- A file that is read for the first time pays for what it adds. -/
theorem moveLimit_splice_le {fs : FileSystem} {names : List String} {file text : String}
    (hmem : file ∈ names) (hasText : fs.readText? ⟨file⟩ = some text) (rest : List String) :
    moveLimit fs (names.erase file) (spliceBeforeSeparator rest (tokenize text)) ≤
      moveLimit fs names rest := by
  have hadded : (tokenize text).length ≤ (writtenTokens fs).length :=
    (tokenize_sublist_writtenTokens hasText).length_le
  have hlength : (spliceBeforeSeparator rest (tokenize text)).length =
      rest.length + (tokenize text).length := by
    have hparts := congrArg List.length (options_append_operands rest)
    rw [spliceBeforeSeparator_eq]
    simp only [List.length_append] at hparts ⊢
    omega
  have hnames : names.length = (names.erase file).length + 1 := by
    rw [List.length_erase_of_mem hmem, Nat.sub_add_cancel (List.length_pos_of_mem hmem)]
  unfold moveLimit
  rw [hlength, hnames, Nat.add_one_mul]
  omega

/-! ## The moves of an expansion -/

/-- **A run that ends as told**, asking only for names that are new and readable, each once. -/
structure EndsWith (fs : FileSystem) (names : List String) (moves : Nat) (c : Cursor)
    (ending : Ending) (asked : List String) : Prop where
  run_eq : c.run fs moves = some (asked, ending)
  seen_eq : ending.seen = c.seen ++ asked
  nodup : asked.Nodup
  isNew : ∀ file ∈ asked, file ∉ c.seen
  readable : asked ⊆ names

section Moves

variable {fs : FileSystem} {names : List String} {moves : Nat} {c : Cursor} {ending : Ending}

theorem endsWith_of_ends (hmove : c.move = .ends ending) (hseen : ending.seen = c.seen) :
    EndsWith fs names (moves + 1) c ending [] where
  run_eq := by rw [Cursor.run, hmove]
  seen_eq := by rw [hseen, List.append_nil]
  nodup := List.nodup_nil
  isNew := by simp
  readable := List.nil_subset _

theorem EndsWith.of_passes {next : Cursor} {asked : List String} (hmove : c.move = .passes next)
    (hseen : next.seen = c.seen) (rest : EndsWith fs names moves next ending asked) :
    EndsWith fs names (moves + 1) c ending asked where
  run_eq := by
    rw [Cursor.run, hmove]
    exact rest.run_eq
  seen_eq := by rw [rest.seen_eq, hseen]
  nodup := rest.nodup
  isNew := by
    rw [← hseen]
    exact rest.isNew
  readable := rest.readable

theorem endsWith_of_asks_of_readText?_eq_none {file : String} {goOn : String → Cursor}
    (hmove : c.move = .asks file ending goOn) (noText : fs.readText? ⟨file⟩ = none)
    (hseen : ending.seen = c.seen ++ [file]) (isNew : file ∉ c.seen) (hmem : file ∈ names) :
    EndsWith fs names (moves + 1) c ending [file] where
  run_eq := by simp only [Cursor.run, hmove, noText]
  seen_eq := hseen
  nodup := by simp
  isNew := by simpa using isNew
  readable := by simpa using hmem

/-- A file with a text is asked for first, and never again, since its name is seen from then on. -/
theorem EndsWith.of_asks {file text : String} {noText : Ending} {goOn : String → Cursor}
    {asked : List String} (hmove : c.move = .asks file noText goOn)
    (hasText : fs.readText? ⟨file⟩ = some text) (hseen : (goOn text).seen = c.seen ++ [file])
    (isNew : file ∉ c.seen) (hmem : file ∈ names)
    (rest : EndsWith fs (names.erase file) moves (goOn text) ending asked) :
    EndsWith fs names (moves + 1) c ending (file :: asked) where
  run_eq := by simp only [Cursor.run, hmove, hasText, rest.run_eq, Option.map_some]
  seen_eq := by rw [rest.seen_eq, hseen, List.append_assoc, List.singleton_append]
  nodup := by
    refine List.nodup_cons.mpr ⟨fun mem => rest.isNew file mem ?_, rest.nodup⟩
    rw [hseen]
    exact List.mem_append_right _ List.mem_cons_self
  isNew := by
    intro other mem
    rcases List.mem_cons.mp mem with rfl | mem
    · exact isNew
    · intro known
      apply rest.isNew other mem
      rw [hseen]
      exact List.mem_append_left _ known
  readable := by
    refine List.cons_subset.mpr ⟨hmem, fun other mem => ?_⟩
    exact List.mem_of_mem_erase (rest.readable mem)

end Moves

/-- **The moves come to the end of `expandFrom`** within the limit, from every cursor position that the
names kept suffice for. -/
theorem endsWith_expandFrom (fs : FileSystem) (names seen done rest : List String)
    (hcover : NamesCover fs names seen rest) (moves : Nat)
    (hlimit : moveLimit fs names rest ≤ moves) :
    ∃ asked, EndsWith fs names (moves + 1) ⟨seen, done, rest⟩
      (expandFrom fs names seen done rest).ending asked := by
  -- The induction is the cursor's own.  Where it goes on, the limit has shrunk by one.
  fun_induction expandFrom fs names seen done rest generalizing moves with
  | case1 names seen done => exact ⟨[], endsWith_of_ends rfl rfl⟩
  | case2 names seen done rest => exact ⟨[], endsWith_of_ends (move_separator seen done rest) rfl⟩
  | case3 names seen done arg rest hseparator hplain ih =>
      rw [moveLimit_cons] at hlimit
      obtain ⟨moves, rfl⟩ := Nat.exists_eq_add_of_le' (Nat.le_of_add_left_le hlimit)
      obtain ⟨asked, hrest⟩ := ih hcover.of_cons moves (Nat.le_of_add_le_add_right hlimit)
      exact ⟨asked, hrest.of_passes (move_plain hseparator hplain) rfl⟩
  | case4 names seen done arg rest hseparator file hnamed loaded problem hresult =>
      by_cases known : file ∈ seen
      · have hload : loaded = _ := load_of_mem known
        rw [hload] at hresult ⊢
        cases hresult
        exact ⟨[], endsWith_of_ends (move_duplicate hseparator hnamed known) rfl⟩
      · cases htext : fs.readText? ⟨file⟩ with
        | none =>
            obtain ⟨notices, hload⟩ := load_of_readText?_eq_none known htext
            rw [show loaded = _ from hload] at hresult ⊢
            cases hresult
            exact ⟨[file], endsWith_of_asks_of_readText?_eq_none (move_new hseparator hnamed known)
              htext rfl known (hcover.mem_of_fileNamed? hnamed known)⟩
        | some text =>
            rw [show loaded = _ from load_of_readText?_eq_some known htext] at hresult
            cases hresult
  | case5 names seen done arg rest hseparator file hnamed loaded extra hresult hmem more ih =>
      obtain ⟨isNew, text, htext, rfl⟩ := load_result_eq_ok hresult
      have hseen : loaded.seen = seen ++ [file] := by
        rw [show loaded = _ from load_of_readText?_eq_some isNew htext]
      rw [hseen] at ih
      rw [moveLimit_cons] at hlimit
      obtain ⟨moves, rfl⟩ := Nat.exists_eq_add_of_le' (Nat.le_of_add_left_le hlimit)
      have hspliced := (moveLimit_splice_le hmem htext rest).trans (Nat.le_of_add_le_add_right hlimit)
      obtain ⟨asked, hrest⟩ := ih (hcover.splice htext) moves hspliced
      refine ⟨file :: asked, ?_⟩
      change EndsWith fs names (moves + 1 + 1) _ (expandFrom fs (names.erase file) loaded.seen done
        (spliceBeforeSeparator rest (tokenize text))).ending _
      rw [hseen]
      exact hrest.of_asks (move_new hseparator hnamed isNew) htext rfl isNew hmem
  | case6 names seen done arg rest hseparator file hnamed loaded extra hresult hmem =>
      -- The names kept would have run out before the files.
      obtain ⟨isNew, -⟩ := load_result_eq_ok hresult
      exact absurd (hcover.mem_of_fileNamed? hnamed isNew) hmem

/-- **Expansion ends, and reads no name twice.**  Whatever the files hold, so many moves as there are
arguments, with one more for each argument written in a file for each name that can be read, come to
the end that `expand` tells of, and more moves change nothing.  The names asked for on the way are new,
each is asked for once, and they are the names by which the names seen have grown. -/
theorem expansion_ends (fs : FileSystem) (seen args : List String) :
    ∃ asked : List String,
      (∀ more : Nat, Cursor.run fs (moveLimit fs (readableNames fs args) args + 1 + more)
        ⟨seen, [], args⟩ = some (asked, (expand fs seen args).ending)) ∧
      (expand fs seen args).seen = seen ++ asked ∧
      asked.Nodup ∧ (∀ file ∈ asked, file ∉ seen) ∧ asked ⊆ readableNames fs args := by
  have hcover := namesCover_readableNames fs seen args
  obtain ⟨asked, hends⟩ := endsWith_expandFrom fs (readableNames fs args) seen [] args hcover _ le_rfl
  refine ⟨asked, fun more => ?_, hends.seen_eq, hends.nodup, hends.isNew, hends.readable⟩
  exact Cursor.run_add hends.run_eq more

end BatchCompiler.ResponseFile

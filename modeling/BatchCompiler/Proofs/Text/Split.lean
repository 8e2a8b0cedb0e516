import BatchCompiler.Proofs.Text.Numeral

/-!
# What a text is cut into

A cut and the text that was cut determine one another.

## Main statements

* `beforeTail?_eq_some_iff` — what stands before an end
* `cutAtFirst?_of_append` — a cut at the first mark
* `cutAtLast?_eq_some_iff` — a cut at the last mark
* `pieces_append` — pieces of two texts with a mark between them
* `splitChars_eq_iff` — the pieces of a text are what stands between its marks
* `lines_firstLines` — the first lines of a text are the lines of what it begins with
-/

namespace BatchCompiler.Text

variable {mark : Char} {p : Char → Bool}

/-- Something is left exactly of the texts that `tail` ends. -/
theorem beforeTail?_eq_some_iff {tail s rest : String} :
    beforeTail? tail s = some rest ↔ s = rest ++ tail := by
  unfold beforeTail?
  constructor
  · intro h
    split at h
    · rename_i isSuffix
      obtain ⟨ahead, hahead⟩ := List.isSuffixOf_iff_suffix.mp isSuffix
      cases h
      apply String.toList_inj.mp
      have hlength : s.length - tail.length = ahead.length := by
        rw [← String.length_toList, ← hahead, List.length_append, String.length_toList]
        omega
      rw [String.toList_append, String.toList_ofList, hlength, ← hahead, List.take_left]
    · cases h
  · rintro rfl
    have hlength : (rest ++ tail).length - tail.length = rest.toList.length := by
      rw [String.length_append, String.length_toList]
      omega
    rw [hlength, String.toList_append,
      if_pos (List.isSuffixOf_iff_suffix.mpr (List.suffix_append _ _)), List.take_left,
      String.ofList_toList]

/-! ## A cut at the first mark -/

theorem cutAtFirst?_of_not_mem {s : String} (h : mark ∉ s.toList) : cutAtFirst? mark s = none := by
  unfold cutAtFirst?
  rw [List.span_eq_takeWhile_dropWhile, List.dropWhile_eq_nil_iff.mpr]
  intro c mem
  rw [decide_eq_true_iff]
  rintro rfl
  exact h mem

/-- **A cut at the first mark**: no mark stands ahead of it. -/
theorem cutAtFirst?_of_append {s before after : String}
    (h : s.toList = before.toList ++ mark :: after.toList) (hbefore : mark ∉ before.toList) :
    cutAtFirst? mark s = some (before, after) := by
  have hahead : ∀ c ∈ before.toList, decide (c ≠ mark) = true := by
    intro c mem
    rw [decide_eq_true_iff]
    rintro rfl
    exact hbefore mem
  unfold cutAtFirst?
  rw [h, List.span_eq_takeWhile_dropWhile, List.takeWhile_append_of_pos hahead,
    List.dropWhile_append_of_pos hahead]
  simp

/-- Where there is a mark, there is a first one. -/
theorem exists_cut_of_mem {s : String} (h : mark ∈ s.toList) :
    ∃ before after : String, s.toList = before.toList ++ mark :: after.toList ∧
      mark ∉ before.toList := by
  obtain ⟨before, after, hsplit, hbefore⟩ := List.eq_append_cons_of_mem h
  refine ⟨String.ofList before, String.ofList after, ?_, ?_⟩
  · rw [String.toList_ofList, String.toList_ofList, hsplit]
  · rwa [String.toList_ofList]

/-! ## A cut at the last mark -/

theorem cutCharsAtLast?_eq_none_iff {cs : List Char} :
    cutCharsAtLast? mark cs = none ↔ mark ∉ cs := by
  induction cs with
  | nil => simp [cutCharsAtLast?]
  | cons c rest ih =>
      rw [cutCharsAtLast?, List.mem_cons, not_or, ← ih]
      cases cutCharsAtLast? mark rest with
      | none => simp [eq_comm]
      | some cut => simp

theorem cutCharsAtLast?_append {before after : List Char} (h : mark ∉ after) :
    cutCharsAtLast? mark (before ++ mark :: after) = some (before, after) := by
  induction before with
  | nil => rw [List.nil_append, cutCharsAtLast?, cutCharsAtLast?_eq_none_iff.mpr h]; simp
  | cons c rest ih => rw [List.cons_append, cutCharsAtLast?, ih]

theorem cutCharsAtLast?_eq_some_iff {cs before after : List Char} :
    cutCharsAtLast? mark cs = some (before, after) ↔
      cs = before ++ mark :: after ∧ mark ∉ after := by
  constructor
  · intro h
    induction cs generalizing before with
    | nil => cases h
    | cons c rest ih =>
        rw [cutCharsAtLast?] at h
        cases hrest : cutCharsAtLast? mark rest with
        | some cut =>
            rw [hrest] at h
            cases h
            obtain ⟨hcut, hafter⟩ := ih hrest
            exact ⟨congrArg (c :: ·) hcut, hafter⟩
        | none =>
            rw [hrest] at h
            dsimp only at h
            split at h
            · rename_i hmark
              cases h
              exact ⟨congrArg (· :: after) hmark, cutCharsAtLast?_eq_none_iff.mp hrest⟩
            · cases h
  · rintro ⟨rfl, hafter⟩
    exact cutCharsAtLast?_append hafter

/-- **A cut at the last mark**: no mark stands behind it. -/
theorem cutAtLast?_eq_some_iff {s before after : String} :
    cutAtLast? mark s = some (before, after) ↔
      s.toList = before.toList ++ mark :: after.toList ∧ mark ∉ after.toList := by
  rw [← cutCharsAtLast?_eq_some_iff]
  unfold cutAtLast?
  rw [Option.map_eq_some_iff]
  constructor
  · rintro ⟨⟨ahead, behind⟩, hcut, hboth⟩
    cases hboth
    simpa using hcut
  · intro hcut
    exact ⟨_, hcut, by simp⟩

/-! ## Pieces -/

theorem splitChars_ne_nil (cs : List Char) : splitChars p cs ≠ [] := by
  cases cs with
  | nil => simp [splitChars]
  | cons c rest =>
      rw [splitChars]
      split
      · simp
      · split
        · simp
        · simp

theorem splitChars_append (hmark : p mark = true) (cs more : List Char) :
    splitChars p (cs ++ mark :: more) = splitChars p cs ++ splitChars p more := by
  induction cs with
  | nil => simp [splitChars, hmark]
  | cons c rest ih =>
      rw [List.cons_append, splitChars, splitChars, ih]
      split
      · rfl
      · cases hrest : splitChars p rest with
        | nil => exact absurd hrest (splitChars_ne_nil rest)
        | cons piece pieces => rfl

theorem pieces_ne_nil (s : String) : pieces p s ≠ [] := by
  unfold pieces
  rw [Ne, List.map_eq_nil_iff]
  exact splitChars_ne_nil s.toList

/-- **Pieces of two texts** with a mark between them. -/
theorem pieces_append (hmark : p mark = true) {s t whole : String}
    (h : whole.toList = s.toList ++ mark :: t.toList) :
    pieces p whole = pieces p s ++ pieces p t := by
  unfold pieces
  rw [h, splitChars_append hmark, List.map_append]

/-- **A text lists entries**: they stand between marks, and hold none. -/
inductive Lists (p : Char → Bool) : List Char → List (List Char) → Prop
  | last {entry : List Char} (h : ∀ c ∈ entry, p c = false) : Lists p entry [entry]
  | more {entry rest : List Char} {mark : Char} {entries : List (List Char)}
      (h : ∀ c ∈ entry, p c = false) (hmark : p mark = true) (hrest : Lists p rest entries) :
      Lists p (entry ++ mark :: rest) (entry :: entries)

theorem Lists.notMark {cs : List Char} {entries : List (List Char)} (h : Lists p cs entries) :
    ∀ entry ∈ entries, ∀ c ∈ entry, p c = false := by
  induction h with
  | last h => simpa using h
  | more h _ _ ih => exact List.forall_mem_cons.mpr ⟨h, ih⟩

theorem lists_splitChars (cs : List Char) : Lists p cs (splitChars p cs) := by
  induction cs with
  | nil => exact .last (by simp)
  | cons c rest ih =>
      rw [splitChars]
      split
      · rename_i hmark
        rw [← List.nil_append (c :: rest)]
        exact .more (by simp) hmark ih
      · rename_i hmark
        have hc : p c = false := by simpa using hmark
        cases hrest : splitChars p rest with
        | nil => exact absurd hrest (splitChars_ne_nil rest)
        | cons piece pieces =>
            rw [hrest] at ih
            cases ih with
            | last h => exact .last (List.forall_mem_cons.mpr ⟨hc, h⟩)
            | more h hmark' hlists =>
                exact .more (List.forall_mem_cons.mpr ⟨hc, h⟩) hmark' hlists

/-- **The pieces of a text** are what stands between its marks. -/
theorem splitChars_eq_iff {cs : List Char} {entries : List (List Char)} :
    splitChars p cs = entries ↔ Lists p cs entries := by
  constructor
  · rintro rfl
    exact lists_splitChars cs
  · intro h
    induction h with
    | last h => exact splitChars_of_not h
    | more h hmark _ ih => rw [splitChars_append hmark, splitChars_of_not h, ih]; rfl

/-! ## Lines -/

/-- Characters up to the `k`-th line feed, which is one of them, or all if there are fewer. -/
def firstLineChars : Nat → List Char → List Char
  | 0, _ => []
  | _ + 1, [] => []
  | k + 1, c :: rest => c :: firstLineChars (if c = '\n' then k else k + 1) rest

/-- **The first lines of a text**, as they are written in it. -/
def firstLines (k : Nat) (s : String) : String := String.ofList (firstLineChars k s.toList)

theorem linesFrom_firstLineChars (k : Nat) (carry cs : List Char) :
    linesFrom carry (firstLineChars (k + 1) cs) = (linesFrom carry cs).take (k + 1) := by
  induction cs generalizing k carry with
  | nil =>
      rw [firstLineChars, linesFrom]
      split
      · simp
      · simp
  | cons c rest ih =>
      rw [firstLineChars, linesFrom, linesFrom]
      by_cases hfeed : c = '\n'
      · rw [if_pos hfeed, if_pos hfeed, if_pos hfeed, List.take_succ_cons]
        cases k with
        | zero => simp [firstLineChars, linesFrom]
        | succ k => rw [ih]
      · rw [if_neg hfeed, if_neg hfeed, if_neg hfeed, ih]

/-- **The first lines of a text** are the lines of what it begins with. -/
theorem lines_firstLines (k : Nat) (s : String) : lines (firstLines k s) = (lines s).take k := by
  unfold lines firstLines
  rw [String.toList_ofList]
  cases k with
  | zero => simp [firstLineChars, linesFrom]
  | succ k => exact linesFrom_firstLineChars k [] s.toList

end BatchCompiler.Text

import BatchCompiler.Proofs.Diagnostic.Kept
import BatchCompiler.Proofs.Host.Scan
import BatchCompiler.Proofs.Text.Numeral
import BatchCompiler.Proofs.Text.Split

/-!
# Braces of a scanned file

The scanner counts braces while it fills the tree, and leaves the file at the first line behind which
more of them have been closed than opened.  What it has done by then is what it does with the lines up
to this one alone; and if there is no such line, braces that are still open at the end are reported
behind everything else.

## Main definitions

* `Host.balanceBehind` — braces opened in the first lines, less those closed
* `Host.Overcloses` — the first line at which too many braces have been closed
* `Host.scanned` — the scanner behind lines all of which it takes in

## Main statements

* `Host.Overcloses.unique`, `Host.forall_not_overcloses_iff` — there is one such line or none
* `Host.ScanState.lines_of_overcloses`, `Host.ScanState.lines_of_nonneg` — where the scan is left
* `Host.scanText_of_overcloses`, `Host.scanText_of_nonneg` — what a file comes to
* `Host.parse_braces` — what the frontend answers
-/

namespace BatchCompiler.Host

/-! ## Balance -/

theorem braceBalance_append (cs more : List Char) :
    braceBalance (cs ++ more) = braceBalance cs + braceBalance more := by
  unfold braceBalance
  rw [List.count_append, List.count_append]
  omega

/-- **The balance behind the first lines**: braces that they open, less those that they close. -/
def balanceBehind (lines : List (List Char)) (k : Nat) : Int := braceBalance (lines.take k).flatten

/-- **The first line at which too many braces have been closed**, where lines count from one. -/
structure Overcloses (lines : List (List Char)) (k : Nat) : Prop where
  negative : balanceBehind lines k < 0
  first : ∀ j < k, 0 ≤ balanceBehind lines j

section Balance

variable {lines : List (List Char)} {j k : Nat}

@[simp] theorem balanceBehind_zero (lines : List (List Char)) : balanceBehind lines 0 = 0 := rfl

@[simp] theorem balanceBehind_cons_succ (text : List Char) (rest : List (List Char)) (k : Nat) :
    balanceBehind (text :: rest) (k + 1) = braceBalance text + balanceBehind rest k := by
  unfold balanceBehind
  rw [List.take_succ_cons, List.flatten_cons, braceBalance_append]

theorem balanceBehind_take (lines : List (List Char)) (j k : Nat) :
    balanceBehind (lines.take k) j = balanceBehind lines (min j k) := by
  unfold balanceBehind
  rw [List.take_take]

theorem balanceBehind_of_length_le (h : lines.length ≤ k) :
    balanceBehind lines k = balanceBehind lines lines.length := by
  unfold balanceBehind
  rw [List.take_of_length_le h, List.take_length]

theorem Overcloses.pos (h : Overcloses lines k) : 1 ≤ k := by
  rcases Nat.eq_zero_or_pos k with rfl | hpos
  · have hnegative := h.negative
    rw [balanceBehind_zero] at hnegative
    omega
  · exact hpos

/-- Behind the last line nothing is closed any more. -/
theorem Overcloses.le_length (h : Overcloses lines k) : k ≤ lines.length := by
  by_contra hbeyond
  have hlt : lines.length < k := by omega
  have hnegative := h.negative
  rw [balanceBehind_of_length_le hlt.le] at hnegative
  have hlast := h.first _ hlt
  omega

/-- **There is one such line at most.** -/
theorem Overcloses.unique (h : Overcloses lines j) (h' : Overcloses lines k) : j = k := by
  have hle : k ≤ j := by
    by_contra hlt
    have hearly := h'.first j (by omega)
    have hnegative := h.negative
    omega
  have hge : j ≤ k := by
    by_contra hlt
    have hearly := h.first k (by omega)
    have hnegative := h'.negative
    omega
  omega

/-- **There is no such line** if never more braces have been closed than opened. -/
theorem forall_not_overcloses_iff :
    (∀ k, ¬ Overcloses lines k) ↔ ∀ k, 0 ≤ balanceBehind lines k := by
  constructor
  · intro hnone k
    -- The first line that closes too many would have nothing but balanced lines ahead of it.
    induction k using Nat.strong_induction_on with
    | _ k ih =>
        by_contra hnegative
        exact hnone k ⟨by omega, ih⟩
  · intro hbalanced k h
    have hnegative := h.negative
    have hnonneg := hbalanced k
    omega

/-- The lines up to this one close too many braces by themselves. -/
theorem Overcloses.take (h : Overcloses lines k) : Overcloses (lines.take k) k where
  negative := by
    rw [balanceBehind_take, Nat.min_self]
    exact h.negative
  first j hj := by
    rw [balanceBehind_take, Nat.min_eq_left hj.le]
    exact h.first j hj

end Balance

/-! ## Scanning -/

/-- **A report of a line**: a name is taken, or a method is out of place. -/
structure IsOfLine (r : Report) : Prop where
  error : r.diagnostic.severity = .error
  code : r.diagnostic.code = 101 ∨ r.diagnostic.code = 116

/-- It does not say that braces are missing. -/
theorem IsOfLine.code_ne {r : Report} (h : IsOfLine r) : r.diagnostic.code ≠ 1513 := by
  rcases h.code with hcode | hcode
  · rw [hcode]
    decide
  · rw [hcode]
    decide

namespace ScanState

variable {path : Path} {number : Nat}

/-- All of some lines are scanned from a number on, whatever becomes of the braces. -/
def through (path : Path) (number : Nat) (s : ScanState) : List (List Char) → ScanState
  | [] => s
  | text :: rest => (s.line path number text).through path (number + 1) rest

theorem depth_enterMain (s : ScanState) (path : Path) (number : Nat) :
    (s.enterMain path number).depth = s.depth := by
  unfold enterMain
  split
  · rfl
  · rfl

/-- **A line moves the depth by its balance.** -/
theorem depth_line (s : ScanState) (path : Path) (number : Nat) (text : List Char) :
    (s.line path number text).depth = s.depth + braceBalance text := by
  have hdeclare (fs : List (DeclarationKind × List Char × Nat)) (s : ScanState) :
      (fs.foldl (fun s f => s.declare path number f) s).depth = s.depth := by
    induction fs generalizing s with
    | nil => rfl
    | cons f rest ih => rw [List.foldl_cons, ih, (s.declare_kept path number f).2]
  unfold line
  dsimp only
  split
  · rw [depth_enterMain, hdeclare]
  · rw [hdeclare]

/-- A declaration is reported at most because its name is taken. -/
theorem isOfLine_declare {s : ScanState} (h : ∀ r ∈ s.reports, IsOfLine r)
    (f : DeclarationKind × List Char × Nat) : ∀ r ∈ (s.declare path number f).reports, IsOfLine r := by
  rw [s.declare_eq path number f _ rfl]
  split
  · intro r mem
    obtain mem | mem := List.mem_append.mp mem
    · exact h r mem
    · obtain rfl := List.mem_singleton.mp mem
      exact ⟨rfl, .inl rfl⟩
  · exact h

/-- A `Main` method is reported at most because it is out of place. -/
theorem isOfLine_enterMain {s : ScanState} (h : ∀ r ∈ s.reports, IsOfLine r) :
    ∀ r ∈ (s.enterMain path number).reports, IsOfLine r := by
  unfold enterMain
  split
  · exact h
  · intro r mem
    obtain mem | mem := List.mem_append.mp mem
    · exact h r mem
    · obtain rfl := List.mem_singleton.mp mem
      exact ⟨rfl, .inr rfl⟩

/-- **One line** is reported on for its declarations and its `Main` method. -/
theorem isOfLine_line {s : ScanState} (h : ∀ r ∈ s.reports, IsOfLine r) (text : List Char) :
    ∀ r ∈ (s.line path number text).reports, IsOfLine r := by
  have hdeclared (fs : List (DeclarationKind × List Char × Nat)) {s : ScanState}
      (h : ∀ r ∈ s.reports, IsOfLine r) :
      ∀ r ∈ (fs.foldl (fun s f => s.declare path number f) s).reports, IsOfLine r := by
    induction fs generalizing s with
    | nil => exact h
    | cons f rest ih => exact ih (isOfLine_declare h f)
  unfold line
  dsimp only
  have hopened : ∀ r ∈ ({ s with space := (namespaceOf? text).orElse fun _ => s.space } :
      ScanState).reports, IsOfLine r := h
  split
  · exact isOfLine_enterMain (hdeclared (declarationsOf text) hopened)
  · exact hdeclared (declarationsOf text) hopened

/-- **Many lines.** -/
theorem isOfLine_through {s : ScanState} (h : ∀ r ∈ s.reports, IsOfLine r)
    (texts : List (List Char)) : ∀ r ∈ (s.through path number texts).reports, IsOfLine r := by
  induction texts generalizing s number with
  | nil => exact h
  | cons text rest ih => exact ih (isOfLine_line h text)

/-- **Many lines move the depth by their balance.** -/
theorem depth_through (s : ScanState) (path : Path) (number : Nat) (texts : List (List Char)) :
    (s.through path number texts).depth = s.depth + balanceBehind texts texts.length := by
  induction texts generalizing s number with
  | nil =>
      show s.depth = s.depth + balanceBehind [] 0
      rw [balanceBehind_zero, Int.add_zero]
  | cons text rest ih =>
      rw [through, ih, depth_line, List.length_cons, balanceBehind_cons_succ, Int.add_assoc]

/-- **The scan is left behind the first line at which the depth falls below zero.** -/
theorem lines_of_overcloses (s : ScanState) (path : Path) (number : Nat) {texts : List (List Char)}
    {k : Nat} (hk : k < texts.length) (hnegative : s.depth + balanceBehind texts (k + 1) < 0)
    (hfirst : ∀ j ≤ k, 0 ≤ s.depth + balanceBehind texts j) :
    s.lines path number texts = (s.through path number (texts.take (k + 1)), some (number + k)) := by
  induction texts generalizing s number k with
  | nil => exact absurd hk (Nat.not_lt_zero k)
  | cons text rest ih =>
      have hdepth := s.depth_line path number text
      rw [balanceBehind_cons_succ, ← Int.add_assoc, ← hdepth] at hnegative
      rw [lines, List.take_succ_cons, through]
      cases k with
      | zero =>
          rw [balanceBehind_zero, Int.add_zero] at hnegative
          exact if_pos hnegative
      | succ k =>
          have hnext : ∀ j ≤ k, 0 ≤ (s.line path number text).depth + balanceBehind rest j := by
            intro j hj
            have hlater := hfirst (j + 1) (Nat.succ_le_succ hj)
            rwa [balanceBehind_cons_succ, ← Int.add_assoc, ← hdepth] at hlater
          have hopen : ¬ (s.line path number text).depth < 0 := by
            have hhere := hnext 0 (Nat.zero_le k)
            rw [balanceBehind_zero] at hhere
            omega
          rw [if_neg hopen, ih _ _ (Nat.lt_of_succ_lt_succ hk) hnegative hnext,
            Nat.add_right_comm number 1 k, ← Nat.add_assoc]

/-- **All lines are scanned** if the depth never falls below zero. -/
theorem lines_of_nonneg (s : ScanState) (path : Path) (number : Nat) {texts : List (List Char)}
    (h : ∀ j, 0 ≤ s.depth + balanceBehind texts j) :
    s.lines path number texts = (s.through path number texts, none) := by
  induction texts generalizing s number with
  | nil => rfl
  | cons text rest ih =>
      have hdepth := s.depth_line path number text
      have hnext : ∀ j, 0 ≤ (s.line path number text).depth + balanceBehind rest j := by
        intro j
        have hlater := h (j + 1)
        rwa [balanceBehind_cons_succ, ← Int.add_assoc, ← hdepth] at hlater
      have hopen : ¬ (s.line path number text).depth < 0 := by
        have hhere := hnext 0
        rw [balanceBehind_zero] at hhere
        omega
      rw [lines, through]
      exact (if_neg hopen).trans (ih _ _ hnext)

end ScanState

/-! ## A file -/

/-- **The scanner behind lines** all of which it takes in, with nothing scanned ahead of them but what
is in a tree. -/
def scanned (path : Path) (t : ProgramTree) (lines : List (List Char)) : ScanState :=
  ScanState.through path 1 { tree := t } lines

/-- The report at the end of a file that braces are still open. -/
def bracesMissing (path : Path) (lines : Nat) : Report :=
  .errorAt 1513 ⟨path, max lines 1, 1⟩ "\x7d expected"

theorem isOfLine_scanned {path : Path} {t : ProgramTree} {lines : List (List Char)} :
    ∀ r ∈ (scanned path t lines).reports, IsOfLine r :=
  ScanState.isOfLine_through (s := { tree := t }) (by simp) lines

section File

variable (path : Path) (t : ProgramTree) {text : String} {k : Nat}

/-- **A file that closes too many braces** is scanned up to the line at which it does. -/
theorem scanText_of_overcloses (h : Overcloses (Text.lines text) k) :
    scanText path text t =
      let s := scanned path t ((Text.lines text).take k)
      (⟨s.tree, s.reports, some (unbalanced k)⟩, s.log) := by
  obtain ⟨index, rfl⟩ := Nat.exists_eq_add_one.mpr h.pos
  have hlines := ScanState.lines_of_overcloses { tree := t } path 1 h.le_length
    (by simpa using h.negative) fun j hj => by simpa using h.first j (Nat.lt_succ_of_le hj)
  unfold scanText
  dsimp only
  rw [hlines, Nat.add_comm 1 index]
  rfl

/-- **A file that never closes too many braces** is scanned to its end. -/
theorem scanText_of_nonneg (h : ∀ j, 0 ≤ balanceBehind (Text.lines text) j) :
    scanText path text t =
      let s := scanned path t (Text.lines text)
      (⟨s.tree, s.reports ++ if 0 < balanceBehind (Text.lines text) (Text.lines text).length then
        [bracesMissing path (Text.lines text).length] else [], none⟩, s.log) := by
  have hlines : ScanState.lines path 1 { tree := t } (Text.lines text) =
      (scanned path t (Text.lines text), none) :=
    ScanState.lines_of_nonneg { tree := t } path 1 fun j => by simpa using h j
  have hdepth : (scanned path t (Text.lines text)).depth =
      balanceBehind (Text.lines text) (Text.lines text).length := by
    unfold scanned
    rw [ScanState.depth_through, Int.zero_add]
  unfold scanText
  dsimp only
  rw [hlines]
  dsimp only
  rw [hdepth]
  rfl

/-- **What stands behind the line is not looked at.** -/
theorem scanText_firstLines (h : Overcloses (Text.lines text) k) :
    scanText path (Text.firstLines k text) t = scanText path text t := by
  have htake : Overcloses (Text.lines (Text.firstLines k text)) k := by
    rw [Text.lines_firstLines]
    exact h.take
  rw [scanText_of_overcloses path t h, scanText_of_overcloses path t htake, Text.lines_firstLines,
    List.take_take, Nat.min_self]

/-- Whatever is reported of a file is an error. -/
theorem severity_scanText (text : String) :
    ∀ r ∈ (scanText path text t).1.reports, r.diagnostic.severity = .error := by
  intro r mem
  by_cases hnone : ∀ k, ¬ Overcloses (Text.lines text) k
  · rw [scanText_of_nonneg path t (forall_not_overcloses_iff.mp hnone)] at mem
    obtain mem | mem := List.mem_append.mp mem
    · exact (isOfLine_scanned r mem).error
    · split at mem
      · obtain rfl := List.mem_singleton.mp mem
        rfl
      · cases mem
  · obtain ⟨first, hfirst⟩ := not_forall_not.mp hnone
    rw [scanText_of_overcloses path t hfirst] at mem
    exact (isOfLine_scanned r mem).error

end File

/-- The reason names the line. -/
theorem unbalanced_injective : Function.Injective unbalanced := by
  intro j k h
  have hletters := congrArg String.toList h
  unfold unbalanced at hletters
  rw [String.toList_append, String.toList_append, List.append_cancel_left_eq,
    show toString j = j.repr from rfl, show toString k = k.repr from rfl, Nat.toList_repr,
    Nat.toList_repr] at hletters
  have hdigits := congrArg Text.digits? hletters
  rw [Text.digits?_toDigits, Text.digits?_toDigits] at hdigits
  exact Option.some.inj hdigits

/-- **A file is given up at a line** if and only if this is the first at which too many braces have been
closed. -/
theorem abort_scanText_iff (path : Path) (t : ProgramTree) {text : String} {k : Nat} :
    (scanText path text t).1.abort = some (unbalanced k) ↔ Overcloses (Text.lines text) k := by
  constructor
  · intro habort
    by_cases hnone : ∀ k, ¬ Overcloses (Text.lines text) k
    · rw [scanText_of_nonneg path t (forall_not_overcloses_iff.mp hnone)] at habort
      cases habort
    · obtain ⟨first, hfirst⟩ := not_forall_not.mp hnone
      rw [scanText_of_overcloses path t hfirst] at habort
      rw [← unbalanced_injective (Option.some.inj habort)]
      exact hfirst
  · intro h
    rw [scanText_of_overcloses path t h]

/-! ## The frontend -/

/-- **Braces of a scanned file.**  All that the frontend reports gets on record.  It gives a file up at
a line if and only if this is the first one at which more braces have been closed than opened; then tree
and reports are those of the lines up to this one, and the same file without the lines behind it is
answered in the same way, log and all.  If there is no such line, all lines are scanned, and it is
reported that braces are missing — once, behind everything else, at the last line — if and only if some
are still open. -/
theorem parse_braces {σ : Type} (request : ParseRequest) (t : ProgramTree) (engine : Engine)
    (site : Site σ) :
    let lines := Text.lines request.text
    let answer := scanFrontend.parse request t engine site
    (engine.submitAll answer.1.reports).diagnostics =
        engine.diagnostics ++ answer.1.reports.map Report.diagnostic ∧
      (∀ k, answer.1.abort = some (unbalanced k) ↔ Overcloses lines k) ∧
      (∀ k, Overcloses lines k →
        1 ≤ k ∧ k ≤ lines.length ∧
        answer.1.tree = (scanned request.path t (lines.take k)).tree ∧
        answer.1.reports = (scanned request.path t (lines.take k)).reports ∧
        scanFrontend.parse { request with text := Text.firstLines k request.text } t engine site =
          answer ∧
        ∀ r ∈ answer.1.reports, r.diagnostic.code ≠ 1513) ∧
      ((∀ k, ¬ Overcloses lines k) →
        answer.1.abort = none ∧
        answer.1.tree = (scanned request.path t lines).tree ∧
        answer.1.reports = (scanned request.path t lines).reports ++
          (if 0 < balanceBehind lines lines.length then [bracesMissing request.path lines.length]
            else []) ∧
        ∀ r ∈ (scanned request.path t lines).reports, r.diagnostic.code ≠ 1513) := by
  intro lines answer
  have hanswer : answer.1 = (scanText request.path request.text t).1 := rfl
  refine ⟨?_, fun k => ?_, fun k h => ?_, fun hnone => ?_⟩
  · exact Engine.submitAll_diagnostics_of_errors (severity_scanText request.path t request.text)
  · exact abort_scanText_iff request.path t
  · have hsame : scanFrontend.parse { request with text := Text.firstLines k request.text } t engine
        site = answer := by
      unfold answer scanFrontend
      dsimp only
      rw [scanText_firstLines request.path t h]
    rw [scanText_of_overcloses request.path t h] at hanswer
    rw [hsame, hanswer]
    exact ⟨h.pos, h.le_length, rfl, rfl, rfl, fun r mem => (isOfLine_scanned r mem).code_ne⟩
  · rw [scanText_of_nonneg request.path t (forall_not_overcloses_iff.mp hnone)] at hanswer
    rw [hanswer]
    exact ⟨rfl, rfl, rfl, fun r mem => (isOfLine_scanned r mem).code_ne⟩

/-- A file whose second line closes more braces than are open. -/
def overclosing : ParseRequest := ⟨⟨"s"⟩, "class A \x7b\n\x7d\x7d\nclass B \x7b", {}⟩

theorem overcloses_overclosing : Overcloses (Text.lines overclosing.text) 2 := by
  have hlines : Text.lines overclosing.text =
      ["class A \x7b".toList, "\x7d\x7d".toList, "class B \x7b".toList] := rfl
  rw [hlines]
  exact ⟨by decide, by decide⟩

/-- It is given up there, and the last line is not looked at. -/
theorem parse_braces_overclosing : ∃ site : Site Unit, ∃ answer,
    scanFrontend.parse overclosing {} { policy := {} } site = answer ∧
      answer.1.abort = some (unbalanced 2) ∧
      scanFrontend.parse { overclosing with text := Text.firstLines 2 overclosing.text } {}
        { policy := {} } site = answer := by
  refine ⟨⟨(), ⟨[], ⟨[]⟩⟩, []⟩, _, rfl, ?_⟩
  obtain ⟨-, habort, hleaves, -⟩ :=
    parse_braces overclosing {} { policy := {} } (⟨(), ⟨[], ⟨[]⟩⟩, []⟩ : Site Unit)
  obtain ⟨-, -, -, -, hsame, -⟩ := hleaves 2 overcloses_overclosing
  exact ⟨(habort 2).mpr overcloses_overclosing, hsame⟩

end BatchCompiler.Host

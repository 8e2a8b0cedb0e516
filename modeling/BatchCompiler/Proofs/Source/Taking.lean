import BatchCompiler.Proofs.Firsts
import BatchCompiler.Source.Files

/-!
# Taking in source files

A source argument stands for some files, and the set takes in those that it has not.

## Main definitions

* `SourceSet.named` — the files that a source argument stands for
* `SourceSet.Met.notice` — what is told of one that is met

## Main statements

* `SourceSet.takeInAll_of_distinct` — files with different paths
* `SourceSet.process_fst`, `SourceSet.files_foldl_insert` — the set behind a source argument
-/

namespace BatchCompiler.SourceSet

variable {fs : FileSystem} {s : SourceSet} {spec : String}

/-- The file that is met, if it is one. -/
def Met.file? : Met → Option Path
  | .file p => some p
  | .noDirectory _ => none

/-- What is told when it is taken in. -/
def Met.notice (s : SourceSet) (spec : String) : Met → Notice
  | .file p => s.addNotice p
  | .noDirectory _ => notFound spec

/-- **The files that a source argument stands for**, in order, whatever the set has already. -/
def named (fs : FileSystem) (engine : Regex.Engine) (spec : String) (recurse : Bool) : List Path :=
  let (directory, pattern) := directoryAndPattern spec
  if !pattern.toList.contains '*' && !recurse then [⟨spec⟩]
  else
    match engine.compile (Glob.expression pattern) with
    | .ok selects => (expand fs selects recurse (fs.depth + 1) ⟨directory⟩).filterMap Met.file?
    | .error _ => []

theorem takeInAll_fst (spec : String) (s : SourceSet) (ms : List Met) :
    (s.takeInAll spec ms).1 = (ms.filterMap Met.file?).foldl insert s := by
  induction ms generalizing s with
  | nil => rfl
  | cons m rest ih =>
      cases m with
      | file p => exact ih (s.insert p)
      | noDirectory p => exact ih s

theorem contains_insert_of_same_eq_false {p q : Path} (h : q.same p = false) :
    (s.insert p).contains q = s.contains q := by
  unfold insert
  split
  · rfl
  · unfold contains
    rw [List.any_append]
    simp [h]

theorem takeInAll_cons (m : Met) (rest : List Met) :
    s.takeInAll spec (m :: rest) =
      (((s.takeIn spec m).1.takeInAll spec rest).1,
        (s.takeIn spec m).2 ++ ((s.takeIn spec m).1.takeInAll spec rest).2) :=
  rfl

/-- **Files with different paths** are taken in each by itself: what is told of one and whether it is
added does not hang on the others. -/
theorem takeInAll_of_distinct {ms : List Met}
    (h : (ms.filterMap Met.file?).Pairwise fun p q => q.same p = false) :
    s.takeInAll spec ms =
      (⟨s.files ++ (ms.filterMap Met.file?).filter fun p => !s.contains p⟩,
        ms.map (Met.notice s spec)) := by
  induction ms generalizing s with
  | nil => simp [takeInAll]
  | cons m rest ih =>
      cases m with
      | file p =>
          obtain ⟨hfirst, hrest⟩ := List.pairwise_cons.mp h
          have hsame (q : Path) (hq : q ∈ rest.filterMap Met.file?) :
              (s.insert p).contains q = s.contains q :=
            contains_insert_of_same_eq_false (hfirst q hq)
          have hnotice (m : Met) (hm : m ∈ rest) :
              Met.notice (s.insert p) spec m = Met.notice s spec m := by
            cases m with
            | file q =>
                dsimp only [Met.notice]
                unfold addNotice
                rw [hsame q (List.mem_filterMap.mpr ⟨_, hm, rfl⟩)]
            | noDirectory q => rfl
          rw [takeInAll_cons, takeIn, add, ih hrest, List.map_congr_left hnotice,
            List.filter_congr fun q hq => congrArg not (hsame q hq)]
          refine Prod.ext (congrArg SourceSet.mk ?_) rfl
          unfold insert
          by_cases hp : s.contains p = true
          · simp [hp, Met.file?]
          · simp [hp, Met.file?]
      | noDirectory p =>
          rw [takeInAll_cons, takeIn, ih h]
          rfl

/-- **A source argument adds the files it stands for.** -/
theorem process_fst (s : SourceSet) (spec : String) (recurse : Bool) (engine : Regex.Engine) :
    (s.process fs spec recurse engine).1 = (named fs engine spec recurse).foldl insert s := by
  unfold process named
  dsimp only
  split
  · rfl
  · cases engine.compile (Glob.expression (directoryAndPattern spec).2) with
    | error problem => rfl
    | ok selects => exact takeInAll_fst spec s _

/-- **Files stay as they first came.** -/
theorem files_foldl_insert {s : SourceSet} {earlier : List Path}
    (h : s.files = earlier.eraseDupsBy Path.same) (ps : List Path) :
    (ps.foldl insert s).files = (earlier ++ ps).eraseDupsBy Path.same := by
  induction ps generalizing s earlier with
  | nil => rwa [List.append_nil]
  | cons p rest ih =>
      rw [List.append_cons]
      refine ih ?_
      rw [eraseDupsBy_concat, ← h]
      unfold insert contains
      split
      · rfl
      · rfl

end BatchCompiler.SourceSet

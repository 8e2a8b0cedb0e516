import BatchCompiler.Proofs.ResponseFile.Queue

/-!
# Expansion with more arguments behind or ahead

Arguments that begin with a separator can be set behind the ones to expand: the expansion does the
same and puts them behind its answer.  And what the cursor has passed stays ahead of its answer, so an
argument that names no response file can be set in front.

## Main statements

* `expandFrom_append`, `expand_append` — the expansion with a tail behind
* `expandFrom_passed`, `expand_cons_of_plain` — the expansion with an argument ahead
* `expand_of_plain` — arguments that name no response file
-/

namespace BatchCompiler.ResponseFile

/-- The outcome with a tail behind its arguments. -/
def Outcome.withTail (o : Outcome) (tail : List String) : Outcome :=
  { o with result := o.result.map (· ++ tail) }

theorem Outcome.result_withTail {o : Outcome} {args : List String} (h : o.result = .ok args)
    (tail : List String) : (o.withTail tail).result = .ok (args ++ tail) := by
  unfold Outcome.withTail
  rw [h]
  rfl

variable {fs : FileSystem} {names seen done rest tail : List String}

/-! ## One step of the cursor -/

/-- At a separator, or with nothing to come, the cursor has done its work. -/
theorem expandFrom_of_options_eq_nil (h : options rest = []) :
    expandFrom fs names seen done rest = ⟨.ok (done ++ rest), seen, []⟩ := by
  cases rest with
  | nil => rw [expandFrom, List.append_nil]
  | cons arg rest =>
      by_cases hseparator : arg = separator
      · rw [expandFrom, if_pos hseparator]
      · rw [options_cons_of_ne hseparator] at h
        cases h

theorem expandFrom_plain {arg : String} (hseparator : arg ≠ separator)
    (hplain : fileNamed? arg = none) :
    expandFrom fs names seen done (arg :: rest) =
      expandFrom fs names seen (done ++ [arg]) rest := by
  rw [expandFrom, if_neg hseparator]
  simp only [hplain]

theorem expandFrom_failed {arg file : String} {problem : ArgumentError}
    (hseparator : arg ≠ separator) (hnamed : fileNamed? arg = some file)
    (hresult : (load fs seen file).result = .error problem) :
    expandFrom fs names seen done (arg :: rest) =
      ⟨.error problem, (load fs seen file).seen, (load fs seen file).notices⟩ := by
  rw [expandFrom, if_neg hseparator]
  simp only [hnamed, hresult]

theorem expandFrom_loaded {arg file : String} {extra : List String}
    (hseparator : arg ≠ separator) (hnamed : fileNamed? arg = some file)
    (hresult : (load fs seen file).result = .ok extra) (mem : file ∈ names) :
    expandFrom fs names seen done (arg :: rest) =
      let more := expandFrom fs (names.erase file) (load fs seen file).seen done
        (spliceBeforeSeparator rest extra)
      { more with
        notices :=
          .log .debug .responseFile ("response file " ++ file ++ " expanded to " ++
            toString extra.length ++ " arguments") :: more.notices } := by
  rw [expandFrom, if_neg hseparator]
  simp only [hnamed, hresult, if_pos mem]

/-- **Arguments that name no response file** stay as they are. -/
theorem expandFrom_of_plain (h : ∀ arg ∈ rest, arg ≠ separator ∧ fileNamed? arg = none) :
    expandFrom fs names seen done rest = ⟨.ok (done ++ rest), seen, []⟩ := by
  induction rest generalizing done with
  | nil => rw [expandFrom, List.append_nil]
  | cons arg rest ih =>
      obtain ⟨⟨hseparator, hplain⟩, hrest⟩ := List.forall_mem_cons.mp h
      rw [expandFrom_plain hseparator hplain, ih hrest, List.append_assoc, List.singleton_append]

theorem expand_of_plain {args : List String}
    (h : ∀ arg ∈ args, arg ≠ separator ∧ fileNamed? arg = none) :
    expand fs seen args = ⟨.ok args, seen, []⟩ := expandFrom_of_plain h

/-! ## The tail -/

/-- **The cursor never comes to the tail**, whatever names it keeps. -/
theorem expandFrom_append (htail : options tail = []) (hcover : NamesCover fs names seen rest) :
    ∀ names' : List String, NamesCover fs names' seen (rest ++ tail) →
      expandFrom fs names' seen done (rest ++ tail) =
        (expandFrom fs names seen done rest).withTail tail := by
  -- The induction is the cursor's own, with the names kept for the longer list left free.
  fun_induction expandFrom fs names seen done rest with
  | case1 names seen done =>
      intro names' _
      exact expandFrom_of_options_eq_nil htail
  | case2 names seen done rest =>
      intro names' _
      have hoptions : options (separator :: rest ++ tail) = [] := by simp [options]
      rw [expandFrom_of_options_eq_nil hoptions, ← List.append_assoc]
      rfl
  | case3 names seen done arg rest hseparator hplain ih =>
      intro names' hcover'
      rw [List.cons_append, expandFrom_plain hseparator hplain]
      exact ih hcover.of_cons names' hcover'.of_cons
  | case4 names seen done arg rest hseparator file hnamed loaded problem hresult =>
      intro names' _
      rw [List.cons_append, expandFrom_failed hseparator hnamed hresult]
      rfl
  | case5 names seen done arg rest hseparator file hnamed loaded extra hresult hmem more ih =>
      intro names' hcover'
      rw [List.cons_append] at hcover' ⊢
      obtain ⟨isNew, text, htext, rfl⟩ := load_result_eq_ok hresult
      have hseen : loaded.seen = seen ++ [file] := by
        rw [show loaded = _ from load_of_readText?_eq_some isNew htext]
      have hargs : "@" ++ file ∈ arg :: (rest ++ tail) := by
        rw [fileNamed?_eq_some_iff.mp hnamed]
        exact List.mem_cons_self
      have hmem' : file ∈ names' := hcover' file isNew (Or.inl hargs)
      have hsplice' := hcover'.splice htext
      rw [← hseen, spliceBeforeSeparator_append_of_options_eq_nil htail] at hsplice'
      have hmore := ih (hseen ▸ hcover.splice htext) _ hsplice'
      rw [expandFrom_loaded hseparator hnamed hresult hmem',
        spliceBeforeSeparator_append_of_options_eq_nil htail, hmore]
      rfl
  | case6 names seen done arg rest hseparator file hnamed loaded extra hresult hmem =>
      obtain ⟨isNew, -⟩ := load_result_eq_ok hresult
      have hargs : "@" ++ file ∈ arg :: rest := by
        rw [fileNamed?_eq_some_iff.mp hnamed]
        exact List.mem_cons_self
      exact absurd (hcover file isNew (Or.inl hargs)) hmem

/-- **Expansion puts a tail behind its answer.** -/
theorem expand_append (htail : options tail = []) (args : List String) :
    expand fs seen (args ++ tail) = (expand fs seen args).withTail tail :=
  expandFrom_append htail (namesCover_readableNames fs seen args) _
    (namesCover_readableNames fs seen (args ++ tail))

/-! ## The front -/

/-- The outcome with more arguments ahead of its own. -/
def Outcome.withLead (o : Outcome) (lead : List String) : Outcome :=
  { o with result := o.result.map (lead ++ ·) }

/-- **What the cursor has passed stays ahead.** -/
theorem expandFrom_passed (lead : List String) :
    expandFrom fs names seen (lead ++ done) rest =
      (expandFrom fs names seen done rest).withLead lead := by
  fun_induction expandFrom fs names seen done rest with
  | case1 names seen done =>
      rw [expandFrom_of_options_eq_nil rfl, List.append_nil]
      rfl
  | case2 names seen done rest =>
      rw [expandFrom_of_options_eq_nil (by simp [options]), List.append_assoc]
      rfl
  | case3 names seen done arg rest hseparator hplain ih =>
      rw [expandFrom_plain hseparator hplain, List.append_assoc, ih]
  | case4 names seen done arg rest hseparator file hnamed loaded problem hresult =>
      rw [expandFrom_failed hseparator hnamed hresult]
      rfl
  | case5 names seen done arg rest hseparator file hnamed loaded extra hresult hmem more ih =>
      rw [expandFrom_loaded hseparator hnamed hresult hmem, ih]
      rfl
  | case6 names seen done arg rest hseparator file hnamed loaded extra hresult hmem =>
      rw [expandFrom, if_neg hseparator]
      simp only [hnamed]
      rw [hresult]
      simp only [if_neg hmem]
      rfl

/-- **An argument that names no response file** stays in front. -/
theorem expand_cons_of_plain {arg : String} (hseparator : arg ≠ separator)
    (hplain : fileNamed? arg = none) (args : List String) :
    expand fs seen (arg :: args) = (expand fs seen args).withLead [arg] := by
  have hnames : readableNames fs (arg :: args) = readableNames fs args := by
    unfold readableNames
    rw [List.cons_append, List.filterMap_cons_none hplain]
  unfold expand
  rw [hnames, expandFrom_plain hseparator hplain, List.nil_append, ← expandFrom_passed,
    List.append_nil]

end BatchCompiler.ResponseFile

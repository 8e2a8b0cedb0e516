import BatchCompiler.Proofs.Diagnostic.Expectation

/-!
# Engines side by side

A run asks its engine two things only: how many errors there are, and whether errors are fatal.  Two
engines that agree about these after the same reports are of the same use to it, whatever their records
hold.

The engines that matter are one that drops the warnings of a code and one that may keep them.  While
warnings are no errors the two records differ by these warnings and by nothing else.

## Main definitions

* `Engine.Congruence` — a relation of engines that are of the same use
* `withoutWarnings` — a record without the warnings of a code
* `Engine.Muffled` — an engine that drops the warnings of a code, next to one that need not

## Main statements

* `Engine.congruence_muffled` — they are of the same use
-/

namespace BatchCompiler

/-! ## Engines of the same use -/

namespace Engine

/-- **Engines of the same use**: the same reports keep them so, and they agree about errors. -/
structure Congruence (E : Engine → Engine → Prop) : Prop where
  submit : ∀ {e e' : Engine}, E e e' → ∀ r, E (e.submit r) (e'.submit r)
  errors : ∀ {e e' : Engine}, E e e' → e.errors = e'.errors
  fatal : ∀ {e e' : Engine}, E e e' → e.policy.fatal = e'.policy.fatal

variable {E : Engine → Engine → Prop} {e e' : Engine}

theorem Congruence.submitAll (hE : Congruence E) (h : E e e') (rs : List Report) :
    E (e.submitAll rs) (e'.submitAll rs) := by
  induction rs generalizing e e' with
  | nil => exact h
  | cons r rest ih => exact ih (hE.submit h r)

theorem congruence_eq : Congruence Eq where
  submit := by
    rintro e _ rfl r
    rfl
  errors := congrArg Engine.errors
  fatal h := congrArg (fun e : Engine => e.policy.fatal) h

end Engine

/-! ## Records without the warnings of a code -/

/-- A warning of a code. -/
def Diagnostic.isWarning (code : Int) (d : Diagnostic) : Bool :=
  d.severity = .warning && d.code = code

/-- **A record without the warnings of a code.** -/
def withoutWarnings (code : Int) (ds : List Diagnostic) : List Diagnostic :=
  ds.filter fun d => !d.isWarning code

theorem withoutWarnings_append (code : Int) (ds more : List Diagnostic) :
    withoutWarnings code (ds ++ more) = withoutWarnings code ds ++ withoutWarnings code more :=
  List.filter_append _ _

theorem Diagnostic.isWarning_of_error {code : Int} {d : Diagnostic} (h : d.severity = .error) :
    d.isWarning code = false := by
  simp [isWarning, h]

/-- No error is among the warnings left out. -/
theorem countP_error_withoutWarnings (code : Int) (ds : List Diagnostic) :
    (withoutWarnings code ds).countP (·.severity = .error) = ds.countP (·.severity = .error) := by
  unfold withoutWarnings
  rw [List.countP_filter]
  refine List.countP_congr fun d _ => ?_
  have herror := @Diagnostic.isWarning_of_error code d
  simp only [Bool.and_eq_true, decide_eq_true_eq, Bool.not_eq_true']
  exact ⟨fun h => h.1, fun h => ⟨h, herror h⟩⟩

theorem exists_isError_withoutWarnings {code other : Int} {ds : List Diagnostic} :
    (∃ d ∈ withoutWarnings code ds, d.IsError other) ↔ ∃ d ∈ ds, d.IsError other := by
  constructor
  · rintro ⟨d, mem, hd⟩
    exact ⟨d, (List.mem_filter.mp mem).1, hd⟩
  · rintro ⟨d, mem, hd⟩
    refine ⟨d, List.mem_filter.mpr ⟨mem, ?_⟩, hd⟩
    rw [Diagnostic.isWarning_of_error hd.1]
    rfl

/-! ## Policies and engines -/

namespace ReportingPolicy

theorem mem_ignore {p : ReportingPolicy} {code other : Int} :
    other ∈ (p.ignore code).ignored ↔ other ∈ p.ignored ∨ other = code := by
  unfold ignore
  split
  · rename_i hmem
    refine ⟨Or.inl, fun h => h.elim id ?_⟩
    rintro rfl
    exact hmem
  · rw [List.mem_append, List.mem_singleton]

/-- Only the codes that are dropped become more. -/
theorem ignore_eq (p : ReportingPolicy) (code : Int) :
    p.ignore code = { p with ignored := (p.ignore code).ignored } := by
  unfold ignore
  split
  · rfl
  · rfl

end ReportingPolicy

/-- **A policy that drops the warnings of a code**, next to one that need not; they agree in all the
rest, and to neither of them warnings are errors. -/
structure ReportingPolicy.Muffled (code : Int) (p q : ReportingPolicy) : Prop where
  ignored : ∀ other, other ∈ p.ignored ↔ other = code ∨ other ∈ q.ignored
  warningLevel : p.warningLevel = q.warningLevel
  expected : p.expected = q.expected
  fatal : p.fatal = q.fatal
  calm : p.warningsAsErrors = false
  calm' : q.warningsAsErrors = false

namespace ReportingPolicy.Muffled

variable {code : Int} {p q : ReportingPolicy}

/-- **What the two policies keep of a report** differs if it is a warning of the code. -/
theorem kept? (h : Muffled code p q) (r : Report) :
    (p.kept? r).toList = withoutWarnings code (q.kept? r).toList := by
  have hcontains : p.ignored.contains r.diagnostic.code =
      (decide (r.diagnostic.code = code) || q.ignored.contains r.diagnostic.code) := by
    rw [Bool.eq_iff_iff]
    simpa using h.ignored r.diagnostic.code
  unfold ReportingPolicy.kept?
  cases hseverity : r.diagnostic.severity with
  | warning =>
      dsimp only
      rw [hcontains, h.warningLevel, h.calm, h.calm']
      -- A warning of the code is dropped by the one policy, and left out of what the other keeps.
      by_cases hcode : r.diagnostic.code = code
      · split
        · split
          · rfl
          · simp [withoutWarnings, Diagnostic.isWarning, hseverity, hcode]
        · simp_all
      · simp only [hcode, decide_false, Bool.false_or]
        split
        · rfl
        · simp [withoutWarnings, Diagnostic.isWarning, hcode]
  | error => simp [withoutWarnings, Diagnostic.isWarning, hseverity]
  | note => simp [withoutWarnings, Diagnostic.isWarning, hseverity]
  | unsupported => simp [withoutWarnings, Diagnostic.isWarning, hseverity]

theorem ignore (h : Muffled code p q) (other : Int) :
    Muffled code (p.ignore other) (q.ignore other) where
  ignored code' := by
    rw [ReportingPolicy.mem_ignore, ReportingPolicy.mem_ignore, h.ignored, or_assoc]
  warningLevel := by rw [p.ignore_eq, q.ignore_eq, h.warningLevel]
  expected := by rw [p.ignore_eq, q.ignore_eq, h.expected]
  fatal := by rw [p.ignore_eq, q.ignore_eq, h.fatal]
  calm := by rw [p.ignore_eq, h.calm]
  calm' := by rw [q.ignore_eq, h.calm']

end ReportingPolicy.Muffled

/-- To drop the warnings of a code is all it takes. -/
theorem ReportingPolicy.muffled_ignore {q : ReportingPolicy} (hcalm : q.warningsAsErrors = false)
    (code : Int) : (q.ignore code).Muffled code q where
  ignored other := by rw [mem_ignore, or_comm]
  warningLevel := by rw [q.ignore_eq]
  expected := by rw [q.ignore_eq]
  fatal := by rw [q.ignore_eq]
  calm := by rw [q.ignore_eq, hcalm]
  calm' := hcalm

/-- **An engine that drops the warnings of a code**, next to one that need not. -/
structure Engine.Muffled (code : Int) (e e' : Engine) : Prop where
  policy : e.policy.Muffled code e'.policy
  diagnostics : e.diagnostics = withoutWarnings code e'.diagnostics
  errors : e.errors = e'.errors
  expectedSeen : e.expectedSeen = e'.expectedSeen

namespace Engine.Muffled

variable {code : Int} {e e' : Engine}

/-- **One report.** -/
theorem submit (h : Engine.Muffled code e e') (r : Report) :
    Engine.Muffled code (e.submit r) (e'.submit r) where
  policy := by
    rw [submit_policy, submit_policy]
    exact h.policy
  diagnostics := by
    rw [submit_diagnostics, submit_diagnostics, withoutWarnings_append, h.diagnostics,
      h.policy.kept?]
  errors := by
    rw [submit_errors, submit_errors, h.errors, h.policy.kept?, countP_error_withoutWarnings]
  expectedSeen := by
    rw [Bool.eq_iff_iff, (e.adds_submit r).seen, (e'.adds_submit r).seen, h.expectedSeen]
    unfold Awaits
    rw [h.policy.expected, h.policy.kept?]
    simp only [exists_isError_withoutWarnings]

theorem withPolicy (h : Engine.Muffled code e e') {change : ReportingPolicy → ReportingPolicy}
    (hchange : (change e.policy).Muffled code (change e'.policy)) :
    Engine.Muffled code (e.withPolicy change) (e'.withPolicy change) :=
  { h with policy := hchange }

end Engine.Muffled

/-- On an empty record there is nothing to drop. -/
theorem Engine.muffled_ignore {e : Engine} (hcalm : e.policy.warningsAsErrors = false)
    (hempty : e.diagnostics = []) (code : Int) :
    Engine.Muffled code (e.withPolicy (·.ignore code)) e where
  policy := ReportingPolicy.muffled_ignore hcalm code
  diagnostics := by
    show e.diagnostics = withoutWarnings code e.diagnostics
    rw [hempty]
    rfl
  errors := rfl
  expectedSeen := rfl

/-- **The two engines are of the same use.** -/
theorem Engine.congruence_muffled (code : Int) : Congruence (Engine.Muffled code) where
  submit h r := h.submit r
  errors h := h.errors
  fatal h := h.policy.fatal

end BatchCompiler

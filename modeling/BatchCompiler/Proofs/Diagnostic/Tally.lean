import Mathlib.Data.List.Induction
import BatchCompiler.Proofs.Diagnostic.Expectation

/-!
# The counts of an engine and its record

The counts of an engine are kept beside the record and not computed from it, and the policy that says
what is counted may change between any two reports.  However reports, changes of the policy and resets
come after one another, counts and record agree.

## Main definitions

* `Report.Suppressed` — the policy drops a report
* `Engine.Action`, `Engine.after` — what is done with an engine, one action after another
* `Engine.Tallied` — the counts are those of the record
* `Engine.Notices` — an action brings in the error that is expected

## Main statements

* `Engine.submit_of_suppressed`, `Engine.diagnostics_submit_of_not_suppressed` — one report
* `Engine.Tallied.after` — counts and record agree after any actions
* `Engine.expectedSeen_after` — the expected error was noticed since the last reset
* `Engine.tally_of_actions` — all of this
-/

namespace BatchCompiler

/-! ## What the policy drops -/

/-- **The policy drops a report**: it is a warning of a code that is ignored, or of too high a level. -/
def Report.Suppressed (p : ReportingPolicy) (r : Report) : Prop :=
  r.diagnostic.severity = .warning ∧ (r.diagnostic.code ∈ p.ignored ∨ p.warningLevel < r.level)

instance (p : ReportingPolicy) (r : Report) : Decidable (r.Suppressed p) :=
  inferInstanceAs (Decidable (_ ∧ _))

/-- **The severity at which a report is recorded**: a warning may be turned into an error. -/
def Report.severityUnder (p : ReportingPolicy) (r : Report) : Severity :=
  if r.diagnostic.severity = .warning ∧ p.warningsAsErrors = true then .error
  else r.diagnostic.severity

variable {p : ReportingPolicy} {r : Report}

theorem ReportingPolicy.kept?_of_not_suppressed (h : ¬ r.Suppressed p) :
    p.kept? r = some { r.diagnostic with severity := r.severityUnder p } := by
  unfold ReportingPolicy.kept? Report.severityUnder
  cases hseverity : r.diagnostic.severity with
  | warning =>
      have hcondition : ¬ (p.ignored.contains r.diagnostic.code ||
          decide (p.warningLevel < r.level)) = true := by
        intro hdropped
        exact h ⟨hseverity, by simpa using hdropped⟩
      dsimp only
      rw [if_neg hcondition]
      by_cases herrors : p.warningsAsErrors = true
      · simp [herrors]
      · simp [herrors, ← hseverity]
  | error | note | unsupported =>
      dsimp only
      rw [if_neg (by simp), ← hseverity]

/-! ## Actions -/

/-- **What is done with an engine**: something is reported in one of the ways there are, the policy is
changed, or the engine is reset. -/
inductive Engine.Action where
  | error (code : Int) (message : String)
  | errorAt (code : Int) (location : SourceLocation) (message : String)
  | warning (code : Int) (level : Nat) (message : String)
  | warningAt (code : Int) (level : Nat) (location : SourceLocation) (message : String)
  | note (message : String)
  | missingSupport (feature : String)
  /-- A diagnostic as it stands. -/
  | plain (d : Diagnostic)
  | setPolicy (policy : ReportingPolicy)
  | reset
deriving DecidableEq, Repr

/-- The report that an action makes, if it makes one. -/
def Engine.Action.report? : Engine.Action → Option Report
  | .error code message => some (.error code message)
  | .errorAt code location message => some (.errorAt code location message)
  | .warning code level message => some (.warning code level message)
  | .warningAt code level location message => some (.warningAt code level location message)
  | .note message => some (.note message)
  | .missingSupport feature => some (.missingSupport feature)
  | .plain d => some (.plain d)
  | .setPolicy _ | .reset => none

namespace Engine

variable {e : Engine} {a : Action}

/-- One action.  A reset leaves a new engine, with the policy that engines have at first. -/
def act (e : Engine) (a : Action) : Engine :=
  match a.report?, a with
  | some r, _ => e.submit r
  | none, .setPolicy policy => e.withPolicy fun _ => policy
  | none, _ => {}

/-- **An engine after some actions**, the first of them first. -/
def after (e : Engine) (actions : List Action) : Engine := actions.foldl act e

theorem after_concat (e : Engine) (actions : List Action) (a : Action) :
    e.after (actions ++ [a]) = (e.after actions).act a := List.foldl_append

theorem act_of_report (h : a.report? = some r) : e.act a = e.submit r := by
  unfold act
  rw [h]

@[simp] theorem act_setPolicy (e : Engine) (policy : ReportingPolicy) :
    e.act (.setPolicy policy) = e.withPolicy fun _ => policy := rfl

@[simp] theorem act_reset (e : Engine) : e.act .reset = {} := rfl

/-- **An action is a report**, a change of the policy, or a reset. -/
theorem Action.cases_report (a : Action) :
    (∃ r, a.report? = some r) ∨ (∃ policy, a = .setPolicy policy) ∨ a = .reset := by
  cases a with
  | setPolicy policy => exact .inr (.inl ⟨policy, rfl⟩)
  | reset => exact .inr (.inr rfl)
  | _ => exact .inl ⟨_, rfl⟩

/-! ## One report -/

/-- **What the policy drops leaves the engine as it was.** -/
theorem submit_of_suppressed (h : r.Suppressed e.policy) : e.submit r = e := by
  obtain ⟨hwarning, hdropped⟩ := h
  have hsuppresses : e.suppresses r = true := by
    unfold suppresses
    simpa using hdropped
  unfold submit
  rw [hwarning]
  dsimp only
  rw [if_pos hsuppresses]

/-- **Anything else is recorded**, behind what is on record. -/
theorem diagnostics_submit_of_not_suppressed (h : ¬ r.Suppressed e.policy) :
    (e.submit r).diagnostics =
      e.diagnostics ++ [{ r.diagnostic with severity := r.severityUnder e.policy }] := by
  rw [submit_diagnostics, ReportingPolicy.kept?_of_not_suppressed h, Option.toList_some]

theorem submit_warnings (e : Engine) (r : Report) :
    (e.submit r).warnings =
      e.warnings + (e.policy.kept? r).toList.countP (·.severity = .warning) := by
  unfold submit ReportingPolicy.kept? suppresses
  cases hseverity : r.diagnostic.severity with
  | warning =>
      dsimp only
      split
      · simp
      · split
        · simp [recordError, record]
        · simp [hseverity]
  | error => simp [recordError, record, hseverity]
  | note => simp [record, hseverity]
  | unsupported => simp [record, hseverity]

/-! ## The counts -/

/-- **The counts are those of the record.** -/
structure Tallied (e : Engine) : Prop where
  errors : e.errors = e.diagnostics.countP (·.severity = .error)
  warnings : e.warnings = e.diagnostics.countP (·.severity = .warning)

theorem tallied_empty : Tallied {} := ⟨rfl, rfl⟩

/-- **One action.** -/
theorem Tallied.act (h : e.Tallied) (a : Action) : (e.act a).Tallied := by
  obtain ⟨r, hreport⟩ | ⟨policy, rfl⟩ | rfl := a.cases_report
  · rw [act_of_report hreport]
    have herrors : (e.submit r).Counted := Counted.submit h.errors r
    refine ⟨herrors, ?_⟩
    rw [submit_warnings, submit_diagnostics, List.countP_append, h.warnings]
  · exact ⟨h.errors, h.warnings⟩
  · exact tallied_empty

/-- **Counts and record agree after any actions.** -/
theorem Tallied.after (h : e.Tallied) (actions : List Action) : (e.after actions).Tallied := by
  induction actions generalizing e with
  | nil => exact h
  | cons a rest ih => exact ih (h.act a)

/-! ## The expected error -/

/-- **An action brings in the error that is expected** at that moment: it puts an error of this code on
record. -/
def Notices (e : Engine) (a : Action) : Prop :=
  ∃ d, (e.act a).diagnostics = e.diagnostics ++ [d] ∧ d.severity = .error ∧
    e.policy.expected = some d.code

/-- Only a report brings in anything. -/
theorem exists_report_of_notices (h : e.Notices a) : ∃ r, a.report? = some r := by
  obtain ⟨d, hrecord, -, -⟩ := h
  obtain hreport | ⟨policy, rfl⟩ | rfl := a.cases_report
  · exact hreport
  · exact absurd (congrArg List.length hrecord) (by simp [withPolicy])
  · exact absurd (congrArg List.length hrecord) (by simp)

theorem notices_iff_of_report (h : a.report? = some r) :
    e.Notices a ↔ e.Awaits (e.policy.kept? r).toList := by
  unfold Notices Awaits Diagnostic.IsError
  rw [act_of_report h, submit_diagnostics]
  constructor
  · rintro ⟨d, hrecord, hseverity, hexpected⟩
    have hkept : (e.policy.kept? r).toList = [d] := List.append_cancel_left hrecord
    exact ⟨d.code, hexpected, d, by simp [hkept], hseverity, rfl⟩
  · rintro ⟨code, hexpected, d, hmem, hseverity, rfl⟩
    have hkept : e.policy.kept? r = some d := by simpa using hmem
    exact ⟨d, by rw [hkept, Option.toList_some], hseverity, hexpected⟩

/-- **After one action**, the expected error was seen before, unless the action is a reset, or it is
noticed now. -/
theorem expectedSeen_act (e : Engine) (a : Action) :
    (e.act a).expectedSeen = true ↔ a ≠ .reset ∧ e.expectedSeen = true ∨ e.Notices a := by
  obtain ⟨r, hreport⟩ | ⟨policy, rfl⟩ | rfl := a.cases_report
  · have hnoReset : a ≠ .reset := by
      rintro rfl
      cases hreport
    rw [act_of_report hreport, (e.adds_submit r).seen, notices_iff_of_report hreport,
      and_iff_right hnoReset]
  · have hsilent : ¬ e.Notices (.setPolicy policy) := fun h => by
      obtain ⟨r, hreport⟩ := exists_report_of_notices h
      cases hreport
    simp [hsilent, withPolicy]
  · have hsilent : ¬ e.Notices .reset := fun h => by
      obtain ⟨r, hreport⟩ := exists_report_of_notices h
      cases hreport
    simp [hsilent]

/-- **The expected error is seen if some action has noticed it since the last reset.** -/
theorem expectedSeen_after (actions : List Action) :
    (after {} actions).expectedSeen = true ↔
      ∃ before a since, actions = before ++ a :: since ∧ .reset ∉ since ∧
        (after {} before).Notices a := by
  induction actions using List.reverseRecOn with
  | nil =>
      have hfresh : (after {} []).expectedSeen = false := rfl
      simp [hfresh]
  | append_singleton actions last ih =>
      rw [after_concat, expectedSeen_act, ih]
      constructor
      · rintro (⟨hnoReset, before, a, since, rfl, hsince, hnotices⟩ | hnotices)
        · refine ⟨before, a, since ++ [last], by simp, ?_, hnotices⟩
          simpa [hsince] using hnoReset.symm
        · exact ⟨actions, last, [], rfl, List.not_mem_nil, hnotices⟩
      · -- The last action is the one that notices the error, or it stands behind that one.
        rintro ⟨before, a, since, hsplit, hsince, hnotices⟩
        induction since using List.reverseRecOn with
        | nil =>
            obtain ⟨rfl, rfl⟩ := List.append_inj' hsplit rfl |>.imp_right List.singleton_inj.mp
            exact .inr hnotices
        | append_singleton since other _ =>
            rw [← List.cons_append, ← List.append_assoc] at hsplit
            obtain ⟨rfl, rfl⟩ := List.append_inj' hsplit rfl |>.imp_right List.singleton_inj.mp
            rw [List.mem_append, not_or, List.mem_singleton] at hsince
            exact .inl ⟨Ne.symm hsince.2, before, a, since, rfl, hsince.1, hnotices⟩

/-! ## Counts and record -/

/-- **Counts and record agree, whatever is done with an engine.**  After any actions the errors counted
are the errors on record, and the warnings counted are the warnings on record.  A report then puts one
more diagnostic on record, its own but for a warning that is turned into an error, and keeps those that
are there; only a warning that the policy drops does not, and leaves the whole engine as it was.  The
expected error is seen exactly if, since the last reset, an error was put on record that had the code
expected at that moment. -/
theorem tally_of_actions (actions : List Action) :
    let e := after {} actions
    e.errors = e.diagnostics.countP (·.severity = .error) ∧
      e.warnings = e.diagnostics.countP (·.severity = .warning) ∧
      (∀ a r, a.report? = some r →
        r.Suppressed e.policy ∧ e.act a = e ∨
          ¬ r.Suppressed e.policy ∧ (e.act a).diagnostics =
            e.diagnostics ++ [{ r.diagnostic with severity := r.severityUnder e.policy }]) ∧
      (e.expectedSeen = true ↔
        ∃ before a since, actions = before ++ a :: since ∧ .reset ∉ since ∧ ∃ d,
          (after {} (before ++ [a])).diagnostics = (after {} before).diagnostics ++ [d] ∧
            d.severity = .error ∧ (after {} before).policy.expected = some d.code) := by
  intro e
  have htallied : e.Tallied := tallied_empty.after actions
  refine ⟨htallied.errors, htallied.warnings, ?_, ?_⟩
  · intro a r hreport
    rw [act_of_report hreport]
    by_cases hsuppressed : r.Suppressed e.policy
    · exact .inl ⟨hsuppressed, submit_of_suppressed hsuppressed⟩
    · exact .inr ⟨hsuppressed, diagnostics_submit_of_not_suppressed hsuppressed⟩
  · simp only [after_concat]
    exact expectedSeen_after actions

/-- A warning turned into an error is the error expected, and a reset forgets it. -/
example :
    let promoted : List Action := [.setPolicy { warningsAsErrors := true, expected := some 2002 },
      .warning 2002 1 "Source file `a.cs' specified multiple times"]
    (after {} promoted).expectedSeen = true ∧ (after {} promoted).errors = 1 ∧
      (after {} (promoted ++ [.reset])).expectedSeen = false := by decide

end Engine

end BatchCompiler

import Mathlib.Tactic.Common
import Mathlib.Data.List.Basic
import BatchCompiler.Notice

/-!
# What an engine keeps

Submitting a report appends at most one diagnostic, and which one is for the policy alone to say.  So
the record after many reports is the record before them, and then what the policy keeps of each.

## Main definitions

* `ReportingPolicy.kept?` — the diagnostic recorded for a report
* `Engine.Counted` — the errors counted are those on record
* `Engine.Reachable` — the engines that come about

## Main statements

* `Engine.submitAll_diagnostics` — the record after many reports
* `Engine.errors_le_submitAll` — no error is taken back
* `Engine.submitAll_diagnostics_of_errors` — errors are recorded as they are reported
* `Engine.Reachable.counted` — every engine counts the errors on its record
* `Desk.takeAll_engine`, `Desk.takeAll_transcript` — of many notices, only the reports get to the
  engine, and only the events to the transcript
-/

namespace BatchCompiler

/-- **The diagnostic recorded for a report**, unless the policy drops it. -/
def ReportingPolicy.kept? (p : ReportingPolicy) (r : Report) : Option Diagnostic :=
  match r.diagnostic.severity with
  | .warning =>
      if p.ignored.contains r.diagnostic.code || decide (p.warningLevel < r.level) then none
      else if p.warningsAsErrors then some { r.diagnostic with severity := .error }
      else some r.diagnostic
  | _ => some r.diagnostic

namespace Engine

/-- **The errors counted are those on record.** -/
def Counted (e : Engine) : Prop := e.errors = e.diagnostics.countP (·.severity = .error)

/-! ## One report -/

@[simp] theorem submit_policy (e : Engine) (r : Report) : (e.submit r).policy = e.policy := by
  unfold submit
  split
  · split
    · rfl
    · split <;> rfl
  · rfl
  · rfl
  · rfl

theorem submit_diagnostics (e : Engine) (r : Report) :
    (e.submit r).diagnostics = e.diagnostics ++ (e.policy.kept? r).toList := by
  unfold submit ReportingPolicy.kept? suppresses
  cases hseverity : r.diagnostic.severity with
  | warning =>
      dsimp only
      split
      · simp
      · split
        · rfl
        · rfl
  | error =>
      have hsame : { r.diagnostic with severity := .error } = r.diagnostic := by rw [← hseverity]
      show e.diagnostics ++ [{ r.diagnostic with severity := .error }] = _
      rw [hsame]
      rfl
  | note => rfl
  | unsupported => rfl

theorem submit_errors (e : Engine) (r : Report) :
    (e.submit r).errors =
      e.errors + (e.policy.kept? r).toList.countP (·.severity = .error) := by
  unfold submit ReportingPolicy.kept? suppresses
  cases hseverity : r.diagnostic.severity with
  | warning =>
      dsimp only
      split
      · simp
      · split
        · rfl
        · simp [record, hseverity]
  | error => simp [recordError, hseverity]
  | note => simp [record, hseverity]
  | unsupported => simp [record, hseverity]

theorem errors_le_submit (e : Engine) (r : Report) : e.errors ≤ (e.submit r).errors := by
  rw [submit_errors]
  exact Nat.le_add_right _ _

theorem Counted.submit {e : Engine} (h : e.Counted) (r : Report) : (e.submit r).Counted := by
  unfold Counted at h ⊢
  rw [submit_errors, submit_diagnostics, List.countP_append, h]

/-! ## Many reports -/

@[simp] theorem submitAll_nil (e : Engine) : e.submitAll [] = e := rfl

@[simp] theorem submitAll_cons (e : Engine) (r : Report) (rest : List Report) :
    e.submitAll (r :: rest) = (e.submit r).submitAll rest := rfl

theorem submitAll_append (e : Engine) (rs more : List Report) :
    e.submitAll (rs ++ more) = (e.submitAll rs).submitAll more := List.foldl_append

@[simp] theorem submitAll_policy (e : Engine) (rs : List Report) :
    (e.submitAll rs).policy = e.policy := by
  induction rs generalizing e with
  | nil => rfl
  | cons r rest ih => rw [submitAll_cons, ih, submit_policy]

/-- **The record after many reports** is the record before, then what the policy keeps of each. -/
theorem submitAll_diagnostics (e : Engine) (rs : List Report) :
    (e.submitAll rs).diagnostics = e.diagnostics ++ rs.filterMap e.policy.kept? := by
  induction rs generalizing e with
  | nil => rw [submitAll_nil, List.filterMap_nil, List.append_nil]
  | cons r rest ih =>
      rw [submitAll_cons, ih, submit_policy, submit_diagnostics, List.append_assoc]
      cases hkept : e.policy.kept? r with
      | none => rw [List.filterMap_cons_none hkept, Option.toList_none, List.nil_append]
      | some d => rw [List.filterMap_cons_some hkept, Option.toList_some, List.singleton_append]

/-- **No error is taken back.** -/
theorem errors_le_submitAll (e : Engine) (rs : List Report) :
    e.errors ≤ (e.submitAll rs).errors := by
  induction rs generalizing e with
  | nil => exact Nat.le_refl _
  | cons r rest ih => exact Nat.le_trans (errors_le_submit e r) (ih (e.submit r))

/-- **The engines that come about**: an engine has nothing on record at first, and changes by reports
and by changes of its policy. -/
inductive Reachable : Engine → Prop
  | empty (policy : ReportingPolicy) : Reachable { policy }
  | submit {e : Engine} (h : Reachable e) (r : Report) : Reachable (e.submit r)
  | withPolicy {e : Engine} (h : Reachable e) (change : ReportingPolicy → ReportingPolicy) :
      Reachable (e.withPolicy change)

/-- **Every engine counts the errors on its record.** -/
theorem Reachable.counted {e : Engine} (h : e.Reachable) : e.Counted := by
  induction h with
  | empty policy => rfl
  | submit _ r ih => exact ih.submit r
  | withPolicy _ change ih => exact ih

theorem Reachable.submitAll {e : Engine} (h : e.Reachable) (rs : List Report) :
    (e.submitAll rs).Reachable := by
  induction rs generalizing e with
  | nil => exact h
  | cons r rest ih => exact ih (h.submit r)

/-- An error that is counted is on record. -/
theorem Counted.exists_error {e : Engine} (h : e.Counted) (herrors : 0 < e.errors) :
    ∃ d ∈ e.diagnostics, d.severity = .error := by
  rw [Counted] at h
  rw [h, List.countP_pos_iff] at herrors
  obtain ⟨d, mem, hseverity⟩ := herrors
  exact ⟨d, mem, of_decide_eq_true hseverity⟩

/-- An error among the reports is counted. -/
theorem errors_pos_submitAll_of_mem {r : Report} {rs : List Report} (mem : r ∈ rs)
    (hseverity : r.diagnostic.severity = .error) (e : Engine) : 0 < (e.submitAll rs).errors := by
  induction rs generalizing e with
  | nil => cases mem
  | cons other rest ih =>
      rcases List.mem_cons.mp mem with rfl | mem
      · refine Nat.lt_of_lt_of_le ?_ (errors_le_submitAll (e.submit r) rest)
        rw [submit, hseverity]
        exact Nat.succ_pos e.errors
      · exact ih mem (e.submit other)

/-! ## Reports that are errors -/

section Errors

variable {e : Engine} {rs : List Report}

/-- **Errors are recorded as they are reported.** -/
theorem submitAll_diagnostics_of_errors (h : ∀ r ∈ rs, r.diagnostic.severity = .error) :
    (e.submitAll rs).diagnostics = e.diagnostics ++ rs.map Report.diagnostic := by
  rw [submitAll_diagnostics, ← List.filterMap_eq_map]
  congr 1
  refine List.filterMap_congr fun r mem => ?_
  unfold ReportingPolicy.kept?
  rw [h r mem]
  rfl

/-- Reports that are errors leave no error counted only if there are none. -/
theorem errors_submitAll_eq_zero_iff (h : ∀ r ∈ rs, r.diagnostic.severity = .error)
    (hclean : e.errors = 0) : (e.submitAll rs).errors = 0 ↔ rs = [] := by
  constructor
  · intro hzero
    cases rs with
    | nil => rfl
    | cons r rest =>
        have mem : r ∈ r :: rest := List.mem_cons_self
        exact absurd hzero (Nat.ne_of_gt (errors_pos_submitAll_of_mem mem (h r mem) e))
  · rintro rfl
    exact hclean

end Errors

end Engine

/-! ## Notices -/

theorem Notice.reports_append (ns more : List Notice) :
    Notice.reports (ns ++ more) = Notice.reports ns ++ Notice.reports more :=
  List.filterMap_append

namespace Desk

theorem takeAll_cons (d : Desk) (n : Notice) (rest : List Notice) :
    d.takeAll (n :: rest) = (d.take n).takeAll rest := rfl

/-- **Of many notices, only the reports get to the engine.** -/
theorem takeAll_engine (d : Desk) (ns : List Notice) :
    (d.takeAll ns).engine = d.engine.submitAll (Notice.reports ns) := by
  induction ns generalizing d with
  | nil => rfl
  | cons n rest ih =>
      rw [takeAll_cons, ih]
      cases n with
      | report r => rfl
      | event e => rfl

/-- **Of many notices, only the events get to the transcript.** -/
theorem takeAll_transcript (d : Desk) (ns : List Notice) :
    (d.takeAll ns).transcript = d.transcript ++ Notice.events ns := by
  induction ns generalizing d with
  | nil => exact (List.append_nil _).symm
  | cons n rest ih =>
      rw [takeAll_cons, ih]
      cases n with
      | report r => rfl
      | event e => exact List.append_assoc _ _ _

end Desk

end BatchCompiler

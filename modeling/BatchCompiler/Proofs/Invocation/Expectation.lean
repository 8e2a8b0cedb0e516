import BatchCompiler.Host.Collaborators
import BatchCompiler.Invocation
import BatchCompiler.PackageTool.Shell
import BatchCompiler.Proofs.CommandLine.Steps
import BatchCompiler.Proofs.Diagnostic.Expectation
import BatchCompiler.Proofs.Pipeline.Course
import BatchCompiler.Proofs.ResponseFile.Behind

/-!
# The status of an invocation that expects an error

The expectation is an option like any other: it is set in the middle of the command line, and may be set
again.  Errors that were recorded before are not looked at again.  So the status speaks of the errors on
record exactly when the reading of the arguments has kept the two in step.

## Main definitions

* `CommandLine.turns` — the turns in which arguments are read
* `Reading.Meets` — a turn that records the error expected at its beginning

## Main statements

* `CommandLine.expectedSeen_parse` — when the expected error is seen while arguments are read
* `Invocation.run_settles` — behind the arguments there are reports only
* `Invocation.status_of_expected` — the status, and when it speaks of the errors on record
-/

namespace BatchCompiler

/-! ## Turns -/

namespace Reading

variable {env : Environment} {r r' : Reading}

/-- A small step goes on under one expectation. -/
theorem Step.extends (h : Step env r r') : r.desk.engine.Extends r'.desk.engine := by
  cases h with
  | tell ns =>
      rw [Desk.takeAll_engine]
      exact r.desk.engine.extends_submitAll _
  | policy hs => exact r.desk.engine.extends_withPolicy (ReportingPolicy.Setting.expected_change hs _)
  | _ => exact r.desk.engine.extends_refl

theorem extends_of_steps (h : Relation.ReflTransGen (Step env) r r') :
    r.desk.engine.Extends r'.desk.engine := by
  induction h with
  | refl => exact r.desk.engine.extends_refl
  | tail _ hstep ih => exact ih.trans hstep.extends

/-- **A turn adds under the expectation at its beginning**, for if it sets the expectation it reports
nothing. -/
theorem adds_turn (env : Environment) (r : Reading) :
    (∃ added, r.desk.engine.Adds added (r.turn env).2.desk.engine) ∧
      (r.desk.engine.Reachable → (r.turn env).2.desk.engine.Reachable) := by
  rcases r.steps_or_expects_turn env with hsteps | hexpects
  · have hextends := extends_of_steps hsteps
    exact ⟨hextends.adds, hextends.reachable⟩
  · obtain ⟨expected, hengine⟩ := hexpects.engine
    rw [hengine]
    exact ⟨⟨[], r.desk.engine.adds_withPolicy _⟩, fun h => h.withPolicy _⟩

/-- **A turn that records the error expected at its beginning.** -/
def Meets (turn : Reading × Reading) : Prop :=
  turn.1.desk.engine.Awaits
    (turn.2.desk.engine.diagnostics.drop turn.1.desk.engine.diagnostics.length)

/-- One turn sees the expected error if it meets it. -/
theorem expectedSeen_turn (env : Environment) (r : Reading) :
    (r.turn env).2.desk.engine.expectedSeen = true ↔
      r.desk.engine.expectedSeen = true ∨ Meets (r, (r.turn env).2) := by
  obtain ⟨⟨added, hadds⟩, -⟩ := r.adds_turn env
  have hadded := hadds.eq_drop
  subst hadded
  exact hadds.seen

/-- **A reading has seen the expected error** if one of its turns has met it. -/
theorem expectedSeen_run {most : Nat} {ending : Ending} (h : run env most r = some (ending, r')) :
    (r'.desk.engine.expectedSeen = true ↔
      r.desk.engine.expectedSeen = true ∨ ∃ turn ∈ turns env most r, Meets turn) ∧
    (r.desk.engine.Reachable → r'.desk.engine.Reachable) := by
  induction most generalizing r with
  | zero => cases h
  | succ most ih =>
      have hseen := r.expectedSeen_turn env
      obtain ⟨-, hreachable⟩ := r.adds_turn env
      rw [run] at h
      rw [turns]
      rcases hturn : r.turn env with ⟨_ | end_, r₁⟩
      · rw [hturn] at h hseen hreachable
        obtain ⟨hrest, hreachable'⟩ := ih h
        refine ⟨?_, hreachable' ∘ hreachable⟩
        rw [hrest, hseen, List.exists_mem_cons_iff, or_assoc]
      · rw [hturn] at h hseen hreachable
        cases h
        refine ⟨?_, hreachable⟩
        rw [hseen]
        simp

end Reading

namespace CommandLine

/-- **The turns in which a command line is read.** -/
def turns (env : Environment) (most : Nat) (config : Config) (desk : Desk) (args : List String) :
    List (Reading × Reading) :=
  let expansion := ResponseFile.expand env.files config.responseFiles args
  match expansion.result with
  | .error _ => []
  | .ok args => Reading.turns env most (start config desk expansion args)

/-- Nothing is expected yet when response files are read. -/
theorem expectedSeen_start (config : Config) {desk : Desk} (hengine : desk.engine = {})
    (expansion : ResponseFile.Outcome) (args : List String) :
    (start config desk expansion args).desk.engine.expectedSeen = false ∧
      (start config desk expansion args).desk.engine.Reachable := by
  have hstart : (start config desk expansion args).desk.engine =
      ({} : Engine).submitAll (Notice.reports expansion.notices) := by
    rw [← hengine]
    exact Desk.takeAll_engine _ _
  rw [hstart]
  refine ⟨?_, (Engine.Reachable.empty {}).submitAll _⟩
  rw [← Bool.not_eq_true, (Engine.adds_submitAll {} _).seen]
  rintro (hseen | ⟨code, hcode, -⟩)
  · cases hseen
  · cases hcode

/-- **The expected error is seen while arguments are read** if a turn has met it. -/
theorem expectedSeen_parse {env : Environment} {most : Nat} {config : Config} {desk : Desk}
    {args : List String} {ending : Reading.Ending} {r : Reading} (hengine : desk.engine = {})
    (h : parse env most config desk args = some (ending, r)) :
    (r.desk.engine.expectedSeen = true ↔
      ∃ turn ∈ turns env most config desk args, Reading.Meets turn) ∧
    r.desk.engine.Reachable := by
  have hstart := expectedSeen_start config hengine
    (ResponseFile.expand env.files config.responseFiles args)
  unfold parse at h
  unfold turns
  dsimp only at h ⊢
  cases hresult : (ResponseFile.expand env.files config.responseFiles args).result with
  | error problem =>
      rw [hresult] at h
      cases h
      obtain ⟨hunseen, hreachable⟩ := hstart []
      exact ⟨by simp [hunseen], hreachable⟩
  | ok expanded =>
      rw [hresult] at h
      obtain ⟨hunseen, hreachable⟩ := hstart expanded
      obtain ⟨hseen, hreachable'⟩ := Reading.expectedSeen_run h
      rw [hunseen] at hseen
      exact ⟨by simpa using hseen, hreachable' hreachable⟩

end CommandLine

namespace Invocation

variable {σ : Type}

/-! ## Invocations -/

/-- Printing what there is to print leaves the engine alone. -/
theorem finish_eq (desk : Desk) (completed : Bool) :
    (finish desk completed).1 = (settle desk.engine completed).1 ∧
      (finish desk completed).2.engine = desk.engine := by
  unfold finish
  dsimp only
  refine ⟨rfl, ?_⟩
  rw [Desk.takeAll_engine, Notice.reports_append, Notice.reports_map_event]
  cases (settle desk.engine completed).2 with
  | none => rfl
  | some line => rfl

/-- What is told about a result is no report. -/
theorem take_resultNotice_engine (desk : Desk) (result : Except Stop RunOutcome) :
    (desk.take (resultNotice result)).engine = desk.engine := by
  rcases result with stop | outcome
  · cases stop <;> rfl
  · rfl

/-- The bench on which a session starts. -/
def announced (config : Config) (bench : Bench σ) : Bench σ :=
  let raised := (requestedLevel? config.debugLevel).map fun level => Notice.event (.verbosity level)
  { bench with desk := bench.desk.takeAll raised.toList }

theorem announced_engine (config : Config) (bench : Bench σ) :
    (announced config bench).engine = bench.engine := by
  unfold announced
  dsimp only
  rw [Bench.engine, Desk.takeAll_engine]
  cases requestedLevel? config.debugLevel with
  | none => rfl
  | some level => rfl

/-- **Compiling adds reports**, and the status is settled on what is then on record. -/
theorem compile_settles (c : Collaborators σ) (config : Config) (bench : Bench σ) :
    ∃ rs completed, (compile c config bench).2.engine = bench.engine.submitAll rs ∧
      (compile c config bench).1 = (settle (bench.engine.submitAll rs) completed).1 := by
  let done := (Session.start config (announced config bench)).run c (lastPhase config)
  obtain ⟨made, hmade⟩ :=
    Session.run_advances c (lastPhase config) (Session.start config (announced config bench))
  obtain ⟨rs, hrun⟩ := hmade.engine
  have hengine : (done.2.bench.desk.take (resultNotice done.1)).engine =
      bench.engine.submitAll rs := by
    rw [take_resultNotice_engine, ← announced_engine config bench]
    exact hrun
  obtain ⟨hstatus, hfinish⟩ :=
    finish_eq (done.2.bench.desk.take (resultNotice done.1)) (completed done.1)
  rw [hengine] at hstatus hfinish
  exact ⟨rs, completed done.1, hfinish, hstatus⟩

/-- **Behind the arguments there are reports only**, unless information is asked for: what is on record
when the arguments have been read is followed by them, and the status is settled on the whole. -/
theorem run_settles {c : Collaborators σ} {tool : FileSystem → PackageTool} {most : Nat}
    {base : Config} {args : List String} {bench bench' : Bench σ} {status : ExitStatus}
    {ending : Reading.Ending} {reading : Reading}
    (hparse : CommandLine.parse (environment c tool bench) most base
      { bench.desk with engine := {} } args = some (ending, reading))
    (hends : ∀ request, ending ≠ .ok (.info request))
    (hrun : run c tool most base args bench = some (status, bench')) :
    ∃ rs completed, bench'.engine = reading.desk.engine.submitAll rs ∧
      status = (settle bench'.engine completed).1 := by
  unfold run at hrun
  dsimp only at hrun
  rw [hparse, Option.map_some] at hrun
  rcases ending with problem | config | request
  · obtain ⟨hstatus, hfinish⟩ := finish_eq (reading.desk.takeAll
      [.log .debug .invocation ("argument error: " ++ problem.logText),
        .error problem.code problem.message]) false
    rw [← hfinish] at hstatus
    cases hrun
    exact ⟨[.error problem.code problem.message], false, hfinish, hstatus⟩
  · obtain ⟨rs, completed, hengine, hstatus⟩ :=
      compile_settles c config { bench with desk := reading.desk }
    rw [← hengine] at hstatus
    cases hrun
    exact ⟨rs, completed, hengine, hstatus⟩
  · exact absurd rfl (hends request)

/-- **The status when an error is expected**, on an engine that has counted what it has seen. -/
theorem settle_of_expected {engine : Engine} {code : Int} (h : engine.policy.expected = some code)
    (hpos : engine.expectedSeen = true → 0 < engine.errors) (completed : Bool) :
    ((settle engine completed).1 = .success ↔ engine.expectedSeen = true) ∧
      ((settle engine completed).1 = .expectedErrorMissing ↔ ¬ 0 < engine.errors) ∧
      ((settle engine completed).1 = .failure ↔
        0 < engine.errors ∧ ¬ engine.expectedSeen = true) := by
  unfold settle Engine.hasErrors
  rw [h]
  dsimp only
  cases hseen : engine.expectedSeen with
  | true => simp [hpos hseen]
  | false =>
      by_cases herrors : 0 < engine.errors
      · simp [herrors]
      · simp [herrors]

/-- **The status of an invocation that expects an error.**  It says that the error is missing exactly
when no error is on record.  It is a success exactly when some turn of the command line has recorded
the error that was expected then, or the error expected in the end was recorded behind the arguments;
and if neither is so and there is an error, it is a failure.

That the status is a success exactly when the error expected in the end is on record holds if that
error was recorded behind the arguments, or else if the turns that met their expectation and that error
among the ones recorded by the turns go together. -/
theorem status_of_expected {c : Collaborators σ} {tool : FileSystem → PackageTool} {most : Nat}
    {base : Config} {args : List String} {bench bench' : Bench σ} {status : ExitStatus}
    {ending : Reading.Ending} {reading : Reading} {code : Int}
    (hparse : CommandLine.parse (environment c tool bench) most base
      { bench.desk with engine := {} } args = some (ending, reading))
    (hends : ∀ request, ending ≠ .ok (.info request))
    (hrun : run c tool most base args bench = some (status, bench'))
    (hexpected : bench'.engine.policy.expected = some code) :
    let turns := CommandLine.turns (environment c tool bench) most base
      { bench.desk with engine := {} } args
    ∃ late, bench'.engine.diagnostics = reading.desk.engine.diagnostics ++ late ∧
      (status = .expectedErrorMissing ↔ ¬ ∃ d ∈ bench'.engine.diagnostics, d.severity = .error) ∧
      (status = .success ↔ (∃ turn ∈ turns, Reading.Meets turn) ∨ ∃ d ∈ late, d.IsError code) ∧
      (status = .failure ↔ (∃ d ∈ bench'.engine.diagnostics, d.severity = .error) ∧
        ¬ ((∃ turn ∈ turns, Reading.Meets turn) ∨ ∃ d ∈ late, d.IsError code)) ∧
      ((status = .success ↔ ∃ d ∈ bench'.engine.diagnostics, d.IsError code) ↔
        (∃ d ∈ late, d.IsError code) ∨
          ((∃ turn ∈ turns, Reading.Meets turn) ↔
            ∃ d ∈ reading.desk.engine.diagnostics, d.IsError code)) := by
  intro turns
  obtain ⟨rs, completed, hengine, hstatus⟩ := run_settles hparse hends hrun
  obtain ⟨hmet, hreachable⟩ := CommandLine.expectedSeen_parse rfl hparse
  have hadds := reading.desk.engine.adds_submitAll rs
  have hreached := hreachable.submitAll rs
  rw [← hengine] at hadds hreached
  have hawaits : reading.desk.engine.policy.expected = some code := by
    rw [hengine, Engine.submitAll_policy] at hexpected
    exact hexpected
  have hseen : bench'.engine.expectedSeen = true ↔ (∃ turn ∈ turns, Reading.Meets turn) ∨
      ∃ d ∈ rs.filterMap reading.desk.engine.policy.kept?, d.IsError code := by
    rw [hadds.seen, hmet]
    simp only [Engine.Awaits, hawaits, Option.some.injEq, exists_eq_left']
    rfl
  have herrors := hreached.counted.errors_pos_iff
  obtain ⟨hsuccess, hmissing, hfailure⟩ :=
    settle_of_expected hexpected hreached.errors_pos completed
  rw [← hstatus, hseen] at hsuccess hfailure
  rw [← hstatus, herrors] at hmissing
  rw [herrors] at hfailure
  refine ⟨_, hadds.diagnostics, hmissing, hsuccess, hfailure, ?_⟩
  -- An error recorded behind the arguments is both on record and noticed.
  rw [hsuccess, hadds.diagnostics]
  simp only [List.mem_append, or_and_right, exists_or]
  by_cases hlate : ∃ d ∈ rs.filterMap reading.desk.engine.policy.kept?, d.IsError code
  · simp only [hlate, or_true, true_or]
  · simp only [hlate, or_false, false_or]

/-- A bench without files. -/
def emptyBench : Bench Host.Manifest := { own := {}, files := ⟨[], {}⟩ }

/-- An error that comes up before it is expected is on record, and yet the status is a failure; and the
status is a success for an error that is no longer expected in the end. -/
theorem status_of_expected_late :
    (∃ bench', run (Host.collaborators ⟨""⟩) PackageTool.ordinaryTools 4 {}
        ["-target:x", "--expect-error", "2019"] emptyBench = some (.failure, bench') ∧
      bench'.engine.policy.expected = some 2019 ∧
      ∃ d ∈ bench'.engine.diagnostics, d.IsError 2019) ∧
    ∃ bench', run (Host.collaborators ⟨""⟩) PackageTool.ordinaryTools 4 {}
        ["--expect-error", "2019", "-target:x", "--expect-error", "7"] emptyBench =
          some (.success, bench') ∧
      bench'.engine.policy.expected = some 7 ∧
      ¬ ∃ d ∈ bench'.engine.diagnostics, d.IsError 7 := by
  unfold run CommandLine.parse
  dsimp only
  rw [ResponseFile.expand_of_plain (by decide +kernel),
    ResponseFile.expand_of_plain (by decide +kernel)]
  refine ⟨⟨_, rfl, rfl, ?_⟩, ⟨_, rfl, rfl, ?_⟩⟩
  · decide +kernel
  · decide +kernel

/-- With the expectation ahead of it, an error that ends the command line is noticed. -/
theorem status_of_expected_first :
    ∃ bench', run (Host.collaborators ⟨""⟩) PackageTool.ordinaryTools 4 {}
        ["--expect-error", "2007", "-zz"] emptyBench = some (.success, bench') ∧
      ((∃ turn ∈ CommandLine.turns
          (environment (Host.collaborators ⟨""⟩) PackageTool.ordinaryTools emptyBench) 4 {}
          { emptyBench.desk with engine := {} } ["--expect-error", "2007", "-zz"],
          Reading.Meets turn) ∨
        ∃ d ∈ bench'.engine.diagnostics, d.IsError 2007) := by
  obtain ⟨reading, hparse, hnone⟩ : ∃ reading, CommandLine.parse
      (environment (Host.collaborators ⟨""⟩) PackageTool.ordinaryTools emptyBench) 4 {}
      { emptyBench.desk with engine := {} } ["--expect-error", "2007", "-zz"] =
        some (.error (.unrecognizedOption "-zz"), reading) ∧
      reading.desk.engine.diagnostics = [] := by
    unfold CommandLine.parse
    dsimp only
    rw [ResponseFile.expand_of_plain (by decide +kernel)]
    exact ⟨_, rfl, rfl⟩
  obtain ⟨bench', hrun, hexpected⟩ : ∃ bench', run (Host.collaborators ⟨""⟩)
      PackageTool.ordinaryTools 4 {} ["--expect-error", "2007", "-zz"] emptyBench =
        some (.success, bench') ∧ bench'.engine.policy.expected = some 2007 := by
    unfold run CommandLine.parse
    dsimp only
    rw [ResponseFile.expand_of_plain (by decide +kernel)]
    exact ⟨_, rfl, rfl⟩
  obtain ⟨late, hdiagnostics, -, hsuccess, -⟩ :=
    status_of_expected hparse (by rintro request ⟨⟩) hrun hexpected
  rw [hnone, List.nil_append] at hdiagnostics
  rw [← hdiagnostics] at hsuccess
  exact ⟨bench', hrun, hsuccess.mp rfl⟩

end Invocation

end BatchCompiler

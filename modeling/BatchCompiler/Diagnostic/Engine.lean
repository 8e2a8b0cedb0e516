import BatchCompiler.Diagnostic

/-!
# The diagnostics engine

Reports are submitted one by one.  The engine drops warnings that the policy suppresses, turns
warnings into errors when the policy says so, and counts what it keeps.

## Main definitions

* `ReportingPolicy` — what the command line says about reporting
* `Report` — a diagnostic as submitted, with the level of a warning
* `Engine.submit` — one report: either one entry is appended or nothing changes
-/

namespace BatchCompiler

/-- **The reporting policy.** -/
structure ReportingPolicy where
  /-- Warnings above this level are dropped. -/
  warningLevel : Nat := 4
  /-- Warnings count as errors. -/
  warningsAsErrors : Bool := false
  /-- Warning codes that are dropped. -/
  ignored : List Int := []
  /-- The error that the run is expected to report. -/
  expected : Option Int := none
  /-- The first error ends the compilation. -/
  fatal : Bool := false
deriving DecidableEq, Repr

/-- The policy with a code added to the dropped ones. -/
def ReportingPolicy.ignore (p : ReportingPolicy) (code : Int) : ReportingPolicy :=
  if code ∈ p.ignored then p else { p with ignored := p.ignored ++ [code] }

/-- **A report**: a diagnostic on its way to the engine.  The level matters for warnings only. -/
structure Report where
  diagnostic : Diagnostic
  level : Nat
deriving DecidableEq, Repr

namespace Report

/-- An error. -/
def error (code : Int) (message : String) : Report := ⟨⟨.error, code, message, none⟩, 1⟩

/-- An error at a place. -/
def errorAt (code : Int) (location : SourceLocation) (message : String) : Report :=
  ⟨⟨.error, code, message, some location⟩, 1⟩

/-- A warning of a level. -/
def warning (code : Int) (level : Nat) (message : String) : Report :=
  ⟨⟨.warning, code, message, none⟩, level⟩

/-- A warning of a level, at a place. -/
def warningAt (code : Int) (level : Nat) (location : SourceLocation) (message : String) : Report :=
  ⟨⟨.warning, code, message, some location⟩, level⟩

/-- More about the diagnostic before. -/
def note (message : String) : Report := ⟨⟨.note, 0, message, none⟩, 1⟩

/-- The output backend lacks a feature. -/
def missingSupport (feature : String) : Report :=
  ⟨⟨.unsupported, 0, "Your runtime is missing support for `" ++ feature ++ "'", none⟩, 1⟩

/-- A diagnostic as it stands; a warning is of level one. -/
def plain (d : Diagnostic) : Report := ⟨d, 1⟩

end Report

/-- **The engine**: the record of diagnostics, the policy, and the counts. -/
structure Engine where
  diagnostics : List Diagnostic := []
  policy : ReportingPolicy := {}
  errors : Nat := 0
  warnings : Nat := 0
  /-- The expected error was reported while it was expected. -/
  expectedSeen : Bool := false
deriving DecidableEq, Repr

namespace Engine

/-- A warning that the policy drops. -/
def suppresses (e : Engine) (r : Report) : Bool :=
  e.policy.ignored.contains r.diagnostic.code || decide (e.policy.warningLevel < r.level)

/-- The engine with one more entry at the end. -/
def record (e : Engine) (d : Diagnostic) : Engine :=
  { e with diagnostics := e.diagnostics ++ [d] }

/-- The engine with one more error. -/
def recordError (e : Engine) (d : Diagnostic) : Engine :=
  { e.record { d with severity := .error } with
    errors := e.errors + 1
    expectedSeen := e.expectedSeen || e.policy.expected == some d.code }

/-- **Submit one report.** -/
def submit (e : Engine) (r : Report) : Engine :=
  match r.diagnostic.severity with
  | .warning =>
      if e.suppresses r then e
      else if e.policy.warningsAsErrors then e.recordError r.diagnostic
      else { e.record r.diagnostic with warnings := e.warnings + 1 }
  | .error => e.recordError r.diagnostic
  | .note => e.record r.diagnostic
  | .unsupported => e.record r.diagnostic

/-- Submit reports in order. -/
def submitAll (e : Engine) (rs : List Report) : Engine := rs.foldl submit e

/-- Some error was counted. -/
def hasErrors (e : Engine) : Bool := decide (0 < e.errors)

/-- Some diagnostic has this code. -/
def hasCode (e : Engine) (code : Int) : Bool := e.diagnostics.any (·.code = code)

/-- An error was counted and errors are fatal. -/
def fatalErrorSeen (e : Engine) : Bool := e.policy.fatal && e.hasErrors

/-- The closing line, when there is something to say. -/
def summary? (e : Engine) : Option String :=
  if e.hasErrors then
    some ("Compilation failed: " ++ toString e.errors ++ " error(s), " ++ toString e.warnings ++
      " warnings")
  else if 0 < e.warnings then
    some ("Compilation succeeded - " ++ toString e.warnings ++ " warning(s)")
  else none

/-- The engine with the policy changed. -/
def withPolicy (e : Engine) (change : ReportingPolicy → ReportingPolicy) : Engine :=
  { e with policy := change e.policy }

end Engine

end BatchCompiler

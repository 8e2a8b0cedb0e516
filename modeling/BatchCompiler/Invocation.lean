import BatchCompiler.Options.Parser
import BatchCompiler.Pipeline.Run
import BatchCompiler.Usage

/-!
# Invocations

From a command line to an exit status: read the arguments, run a session, print the diagnostics, and
settle whether an expected error was reported.

## Main definitions

* `ExitStatus` — how an invocation ends
* `Invocation.settle` — the status that the engine's record amounts to
* `Invocation.run` — a whole invocation
-/

namespace BatchCompiler

/-- **How an invocation ends.** -/
inductive ExitStatus where
  | success
  | failure
  /-- An error was expected, and none was reported. -/
  | expectedErrorMissing
deriving DecidableEq, Repr

/-- The exit code. -/
def ExitStatus.code : ExitStatus → Nat
  | .success => 0
  | .failure => 1
  | .expectedErrorMissing => 2

namespace Invocation

/-- **The status of a finished invocation and the closing line**, if there is one. -/
def settle (engine : Engine) (completed : Bool) : ExitStatus × Option String :=
  match engine.policy.expected with
  | some code =>
      if engine.expectedSeen then
        (.success, some ("Reported expected error " ++ toString code))
      else if !engine.hasErrors then
        (.expectedErrorMissing, some ("Failed to report expected error " ++ toString code ++
          ".\nNo other errors reported."))
      else
        (.failure, some ("Failed to report expected error " ++ toString code ++
          ".\nHowever, other errors were reported."))
  | none =>
      (if completed && !engine.hasErrors then .success else .failure, engine.summary?)

/-- **Print diagnostics** and the closing line. -/
def finish (desk : Desk) (completed : Bool) : ExitStatus × Desk :=
  let shown := desk.engine.diagnostics.map fun d =>
    Notice.event (.problem (Diagnostic.render true d ++ "\n"))
  let (status, closing) := settle desk.engine completed
  (status, desk.takeAll (shown ++ (closing.map fun line => .event (.output line)).toList))

/-- The log level that a debug level asks for. -/
def requestedLevel? : Nat → Option LogLevel
  | 0 => none
  | 1 => some .info
  | 2 => some .debug
  | _ => some .trace

/-- The phase at which a run for this configuration ends. -/
def lastPhase (config : Config) : Phase := if config.stopsAfterParsing then .parse else .save

/-- What is told about the result of a run. -/
def resultNotice : Except Stop RunOutcome → Notice
  | .ok outcome =>
      .log .debug .invocation ("pipeline finished after " ++ outcome.lastPhase.label)
  | .error (.internal problem) =>
      .event (.problem ("error: internal compiler error: " ++ problem ++ "\n"))
  | .error stop => .log .debug .invocation stop.message

/-- The result is no early stop. -/
def completed : Except Stop RunOutcome → Bool
  | .ok _ => true
  | .error _ => false

variable {σ : Type}

/-- **Compile** for a configuration. -/
def compile (c : Collaborators σ) (config : Config) (bench : Bench σ) : ExitStatus × Bench σ :=
  let raised := (requestedLevel? config.debugLevel).map fun level => Notice.event (.verbosity level)
  let bench := { bench with desk := bench.desk.takeAll raised.toList }
  let (result, s) := (Session.start config bench).run c (lastPhase config)
  let (status, desk) := finish (s.bench.desk.take (resultNotice result)) (completed result)
  (status, { s.bench with desk })

/-- What the command line is read against. -/
def environment (c : Collaborators σ) (tool : FileSystem → PackageTool) (bench : Bench σ) :
    Environment :=
  { files := bench.files, packageTool := tool bench.files, toolkit := c.toolkit }

/-- **One invocation**, on top of a base configuration and with an engine of its own.  Reading the
arguments lasts so many turns at most; there is no result if they do not suffice. -/
def run (c : Collaborators σ) (tool : FileSystem → PackageTool) (turns : Nat) (base : Config)
    (args : List String) (bench : Bench σ) : Option (ExitStatus × Bench σ) :=
  let desk := { bench.desk with engine := {} }
  (CommandLine.parse (environment c tool bench) turns base desk args).map fun (ending, reading) =>
    let bench := { bench with desk := reading.desk }
    match ending with
    | .ok (.compile config) => compile c config bench
    | .ok (.info request) =>
        (.success, { bench with desk := bench.desk.take (.event (.output request.text)) })
    | .error problem =>
        let told : List Notice :=
          [.log .debug .invocation ("argument error: " ++ problem.logText),
            .error problem.code problem.message]
        let (status, desk) := finish (bench.desk.takeAll told) false
        (status, { bench with desk })

/-- The invocation succeeds. -/
def succeeds (c : Collaborators σ) (tool : FileSystem → PackageTool) (turns : Nat)
    (args : List String) (bench : Bench σ) : Option (Bool × Bench σ) :=
  (run c tool turns {} args bench).map fun (status, bench) => (status = .success, bench)

end Invocation

end BatchCompiler

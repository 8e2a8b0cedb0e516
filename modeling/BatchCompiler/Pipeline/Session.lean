import BatchCompiler.Collaborator.Job
import BatchCompiler.Reference.Resolver
import BatchCompiler.Resource.Emission

/-!
# Sessions

A session carries one compilation through its phases.  It is used for one run, and again after a
reset.

## Main definitions

* `Phase` — the phases, in order
* `Stop` — why a run ends early
* `Session`, `Stage` — the state of a run, and a part of a run that may end it
* `Stage.gate`, `Stage.stopIfFatal` — where errors end a run
-/

namespace BatchCompiler

/-- **A phase of a compilation.** -/
inductive Phase where
  | parse
  | configureDefaults
  | loadReferences
  | outputIdentity
  | loadModules
  | coreTypes
  | resolveTree
  | documentation
  | verifyUsing
  | assemblyAttributes
  | emit
  | closeTypes
  | entryPoint
  | emitResources
  | nativeResources
  | save
deriving DecidableEq, Repr

namespace Phase

/-- Every phase, in order. -/
def all : List Phase :=
  [.parse, .configureDefaults, .loadReferences, .outputIdentity, .loadModules, .coreTypes,
   .resolveTree, .documentation, .verifyUsing, .assemblyAttributes, .emit, .closeTypes,
   .entryPoint, .emitResources, .nativeResources, .save]

/-- Position in the order. -/
def rank (p : Phase) : Nat := all.idxOf p

/-- The phase's name. -/
def label : Phase → String
  | .parse => "Parse"
  | .configureDefaults => "ConfigureDefaults"
  | .loadReferences => "LoadReferences"
  | .outputIdentity => "OutputIdentity"
  | .loadModules => "LoadModules"
  | .coreTypes => "CoreTypes"
  | .resolveTree => "ResolveTree"
  | .documentation => "Documentation"
  | .verifyUsing => "VerifyUsing"
  | .assemblyAttributes => "AssemblyAttributes"
  | .emit => "Emit"
  | .closeTypes => "CloseTypes"
  | .entryPoint => "EntryPoint"
  | .emitResources => "EmitResources"
  | .nativeResources => "NativeResources"
  | .save => "Save"

end Phase

/-- **Why a run ends early.** -/
inductive Stop where
  /-- A gate found errors, which have been reported. -/
  | halted (phase : Phase)
  /-- A collaborator asked for it, or an error came up while errors are fatal. -/
  | fatal (phase : Phase)
  | missingSupport (feature : String)
  /-- The session is not used as it should be. -/
  | internal (problem : String)
deriving DecidableEq, Repr

/-- The wording. -/
def Stop.message : Stop → String
  | .halted phase => "compilation stopped after " ++ phase.label
  | .fatal phase => "compilation aborted during " ++ phase.label
  | .missingSupport feature => "runtime is missing support for " ++ feature
  | .internal problem => "internal compiler error: " ++ problem

/-- **What a finished run has produced.** -/
structure RunOutcome where
  lastPhase : Phase
  output : Option Path
  entryPoint : Option EntryPoint
deriving DecidableEq, Repr

/-- **A session.** -/
structure Session (σ : Type) where
  config : Config
  bench : Bench σ
  resolver : ReferenceResolver := {}
  tree : ProgramTree := {}
  phase : Phase := .parse
  output : Option Path := none
  entryPoint : Option EntryPoint := none
  /-- A run has been made; another needs a reset. -/
  finished : Bool := false

namespace Session

variable {σ : Type}

/-- The engine of a session. -/
abbrev engine (s : Session σ) : Engine := s.bench.engine

/-- **A fresh session** for a configuration.  The engine is that of the bench. -/
def start (config : Config) (bench : Bench σ) : Session σ := { config, bench }

/-- **Prepare for another run** with a configuration of its own: everything but the collaborators,
the file system and the transcript is as in a fresh session. -/
def reset (s : Session σ) (config : Config) : Session σ :=
  start config { s.bench with desk := { s.bench.desk with engine := {} } }

/-- What the run has produced so far. -/
def outcome (s : Session σ) : RunOutcome := ⟨s.phase, s.output, s.entryPoint⟩

end Session

/-- **A part of a run**, which may end it. -/
abbrev Stage (σ α : Type) := ExceptT Stop (StateM (Session σ)) α

namespace Stage

variable {σ α : Type}

/-- A job as part of a run. -/
def job (j : Job σ α) : Stage σ α := fun s =>
  let (a, bench) := j s.bench
  (.ok a, { s with bench })

/-- Submit a report. -/
def report (r : Report) : Stage σ Unit := job (Job.report r)

/-- Submit an error. -/
def error (code : Int) (message : String) : Stage σ Unit := report (.error code message)

/-- Leave a log record. -/
def log (level : LogLevel) (message : String) : Stage σ Unit :=
  job (Job.log level .pipeline message)

/-- Ask a collaborator. -/
def ask [Answer α] (call : Call) (act : Act σ α) : Stage σ α := job (Job.ask call act)

/-- Consult a collaborator that can report. -/
def consult [Answer α] (call : Call) (act : Engine → Act σ (α × List Report)) : Stage σ α :=
  job (Job.consult call act)

/-- Consult a collaborator that answers with reports alone. -/
def review (call : Call) (act : Engine → Act σ (List Report)) : Stage σ Unit :=
  consult call fun engine => do return ((), ← act engine)

/-- Let a collaborator work on the tree. -/
def rework (call : Call) (act : ProgramTree → Engine → Act σ (ProgramTree × List Report)) :
    Stage σ Unit := do
  let tree := (← get).tree
  let tree ← consult call (act tree)
  modify ({ · with tree })

/-- Enter a phase. -/
def enter (phase : Phase) : Stage σ Unit := do
  log .trace ("entering " ++ phase.label)
  modify ({ · with phase })

/-- Write the time since the last lap, if times are asked for. -/
def lap (message : String) : Stage σ Unit := do
  if (← get).config.timestamps then job (Job.tell [.event (.lap message)])

/-- **End the run if errors are fatal and there is one.** -/
def stopIfFatal : Stage σ Unit := do
  let s ← get
  if s.engine.fatalErrorSeen then
    log .debug ("fatal error during " ++ s.phase.label)
    throw (.fatal s.phase)

/-- **End the run if there is any error.** -/
def gate : Stage σ Unit := do
  stopIfFatal
  let s ← get
  if s.engine.hasErrors then
    log .debug ("stopping after " ++ s.phase.label ++ ": " ++ toString s.engine.errors ++
      " error(s)")
    throw (.halted s.phase)

end Stage

end BatchCompiler

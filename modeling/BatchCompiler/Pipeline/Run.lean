import BatchCompiler.Pipeline.Stages

/-!
# Running a session

The stages in order, in three groups: a run may be told to end after the first group or the second,
or else goes on to the end.

## Main definitions

* `Stage.frontHalf`, `Stage.backHalf` — the second group and the third
* `Session.run` — a run
-/

namespace BatchCompiler

variable {σ : Type}

namespace Stage

/-- **From the default references to the attributes.** -/
def frontHalf (c : Collaborators σ) : Stage σ Unit := do
  configureDefaults
  loadReferences c
  outputIdentity c
  loadModules c
  stopIfFatal
  coreTypes c
  resolveTree c
  documentation c
  verifyUsing c
  assemblyAttributes c

/-- **From emitting code to saving the output.** -/
def backHalf (c : Collaborators σ) : Stage σ Unit := do
  emit c
  closeTypes c
  stopIfFatal
  entryPoint c
  emitResources c
  nativeResources c
  stopIfFatal
  save c

/-- All that a run does. -/
def toPhase (c : Collaborators σ) (last : Phase) : Stage σ Unit := do
  parse c
  if last = .parse then return ()
  if (← get).config.stopsAfterParsing then return ()
  frontHalf c
  if last.rank < Phase.emit.rank then return ()
  backHalf c

end Stage

/-- **Run a session** up to a phase.  A session that has been run before does nothing. -/
def Session.run (c : Collaborators σ) (last : Phase) (s : Session σ) :
    Except Stop RunOutcome × Session σ :=
  if s.finished then (.error (.internal "the driver was run twice without a reset"), s)
  else
    match Stage.toPhase c last { s with finished := true } with
    | (.ok (), s') => (.ok s'.outcome, s')
    | (.error stop, s') => (.error stop, s')

end BatchCompiler

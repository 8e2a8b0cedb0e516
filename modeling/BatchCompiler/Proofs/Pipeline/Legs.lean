import BatchCompiler.Proofs.Pipeline.Stages

/-!
# The legs of a run

A run taken apart into its phases: for each phase the stage that is performed in it, checks for errors
behind it included.  Which phases there are is for the configuration and the last phase to say.

## Main definitions

* `Session.saying` — a session in which something has been said
* `Stage.Leg`, `Stage.inTurn` — a phase and what is done in it, and legs one after another
* `Stage.course` — the legs of a run

## Main statements

* `Stage.perform_stopIfFatal`, `Stage.perform_gate` — the checks for errors between phases
* `Stage.perform_toPhase` — a run performs its course
-/

namespace BatchCompiler

variable {σ : Type}

/-- A session in which something has been said that is no report. -/
def Session.saying (s : Session σ) (events : List Event) : Session σ :=
  { s with bench := { s.bench with
      desk := { s.bench.desk with transcript := s.bench.desk.transcript ++ events } } }

namespace Stage

/-! ## What stands between phases -/

theorem saying_nil (s : Session σ) : s.saying [] = s := by
  unfold Session.saying
  rw [List.append_nil]

theorem perform_lap (message : String) (s : Session σ) :
    ∃ events, perform (lap message) s = (.ok (), s.saying events) := by
  unfold lap
  rw [perform_bind, perform_get]
  dsimp only
  split
  · exact ⟨_, rfl⟩
  · exact ⟨[], by rw [saying_nil]; rfl⟩

/-- A check for fatal errors. -/
theorem perform_stopIfFatal (s : Session σ) :
    perform stopIfFatal s = if s.engine.fatalErrorSeen = true then
      (.error (.fatal s.phase),
        s.saying [.log ⟨.debug, .pipeline, "fatal error during " ++ s.phase.label⟩])
      else (.ok (), s) := by
  unfold stopIfFatal
  rw [perform_bind, perform_get]
  dsimp only
  split
  · rfl
  · rfl

/-- **A gate** is passed without an error only. -/
theorem perform_gate (s : Session σ) :
    ∃ events, (s.engine.errors = 0 → events = []) ∧ perform gate s =
      (if s.engine.errors = 0 then .ok ()
        else .error (if s.engine.policy.fatal = true then .fatal s.phase else .halted s.phase),
        s.saying events) := by
  have hseen : s.engine.fatalErrorSeen = (s.engine.policy.fatal && s.engine.hasErrors) := rfl
  unfold gate
  rw [perform_bind, perform_stopIfFatal, hseen]
  by_cases herrors : s.engine.errors = 0
  · have hnone : s.engine.hasErrors = false := by simp [Engine.hasErrors, herrors]
    rw [hnone, Bool.and_false, if_neg (by decide), if_pos herrors]
    refine ⟨[], fun _ => rfl, ?_⟩
    dsimp only
    rw [perform_bind, perform_get, saying_nil]
    dsimp only
    rw [hnone]
    rfl
  · have hsome : s.engine.hasErrors = true := decide_eq_true (Nat.pos_of_ne_zero herrors)
    rw [hsome, Bool.and_true, if_neg herrors]
    by_cases hfatal : s.engine.policy.fatal = true
    · rw [if_pos hfatal, if_pos hfatal]
      exact ⟨_, fun hzero => absurd hzero herrors, rfl⟩
    · rw [if_neg hfatal, if_neg hfatal]
      dsimp only
      rw [perform_bind, perform_get]
      dsimp only
      rw [hsome, if_pos rfl]
      exact ⟨_, fun hzero => absurd hzero herrors, rfl⟩

/-! ## The legs -/

/-- A phase and what is done in it. -/
abbrev Leg (σ : Type) := Phase × Stage σ Unit

/-- The legs up to the attributes. -/
def frontLegs (c : Collaborators σ) : List (Leg σ) :=
  [(.configureDefaults, configureDefaults),
   (.loadReferences, loadReferences c),
   (.outputIdentity, outputIdentity c),
   (.loadModules, do loadModules c; stopIfFatal),
   (.coreTypes, coreTypes c),
   (.resolveTree, resolveTree c),
   (.documentation, documentation c),
   (.verifyUsing, verifyUsing c),
   (.assemblyAttributes, assemblyAttributes c)]

/-- The legs from emitting code. -/
def backLegs (c : Collaborators σ) : List (Leg σ) :=
  [(.emit, emit c),
   (.closeTypes, do closeTypes c; stopIfFatal),
   (.entryPoint, entryPoint c),
   (.emitResources, emitResources c),
   (.nativeResources, do nativeResources c; stopIfFatal),
   (.save, save c)]

/-- **The course of a run** under a configuration. -/
def course (c : Collaborators σ) (last : Phase) (config : Config) : List (Leg σ) :=
  (.parse, parse c) ::
    if last = .parse then []
    else if config.stopsAfterParsing then []
    else frontLegs c ++ if last.rank < Phase.emit.rank then [] else backLegs c

/-- Legs in turn, until one ends the run. -/
def inTurn : List (Leg σ) → Stage σ Unit
  | [] => pure ()
  | leg :: rest => do
      leg.2
      inTurn rest

section InTurn

variable {phase : Phase} {m : Stage σ Unit} {rest : List (Leg σ)} {s s' : Session σ} {stop : Stop}

theorem perform_inTurn_of_error (hrun : perform m s = (.error stop, s')) :
    perform (inTurn ((phase, m) :: rest)) s = (.error stop, s') := by
  unfold inTurn
  rw [perform_bind, hrun]

theorem perform_inTurn_of_ok (hrun : perform m s = (.ok (), s')) :
    perform (inTurn ((phase, m) :: rest)) s = perform (inTurn rest) s' := by
  conv_lhs => unfold inTurn
  rw [perform_bind, hrun]

end InTurn

theorem inTurn_append (legs more : List (Leg σ)) :
    inTurn (legs ++ more) = (do inTurn legs; inTurn more) := by
  induction legs with
  | nil => rfl
  | cons leg rest ih =>
      rw [List.cons_append, inTurn, inTurn, bind_assoc, ih]

theorem inTurn_frontLegs (c : Collaborators σ) : inTurn (frontLegs c) = frontHalf c := by
  simp only [inTurn, frontLegs, frontHalf, bind_assoc, bind_pure_unit]

theorem inTurn_backLegs (c : Collaborators σ) : inTurn (backLegs c) = backHalf c := by
  simp only [inTurn, backLegs, backHalf, bind_assoc, bind_pure_unit]

/-- **A run performs its course.** -/
theorem perform_toPhase (c : Collaborators σ) (last : Phase) (s : Session σ) :
    perform (toPhase c last) s = perform (inTurn (course c last s.config)) s := by
  obtain ⟨_, -, -, hends⟩ :=
    (@does_parse σ c _ _).covers s [] s.underWay_start (settled_start s)
  unfold toPhase course inTurn
  rw [perform_bind, perform_bind]
  rcases hparse : perform (parse c) s with ⟨stop | _, s'⟩
  · rfl
  · rw [hparse] at hends
    -- Whether the run ends here is for the configuration to say, and parsing leaves that alone.
    have hstops : s'.config.stopsAfterParsing = s.config.stopsAfterParsing :=
      congrArg Setup.stopsAfterParsing hends.setup
    dsimp only
    split
    · rfl
    · rw [perform_bind, perform_get]
      dsimp only
      rw [hstops]
      split
      · rfl
      · rw [inTurn_append, inTurn_frontLegs, perform_bind, perform_bind]
        rcases perform (frontHalf c) s' with ⟨stop | _, s''⟩
        · rfl
        · dsimp only
          split
          · rfl
          · rw [inTurn_backLegs]

end Stage

end BatchCompiler

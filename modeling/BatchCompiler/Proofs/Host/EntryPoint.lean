import BatchCompiler.Proofs.Host.Files
import BatchCompiler.Proofs.Pipeline.Arrival

/-!
# The entry point of a run

With the host collaborators three phases deal with the entry point.  It is chosen when code is
emitted, where more than one candidate ends the run; and it is defined, or missed, once the types
are closed.  Together they come to one decision for each program tree and configuration.

## Main definitions

* `Host.startsOf` — the candidates that a run has to choose from
* `Host.ambiguity`, `Host.withoutMain`, `Host.mainOfLibrary` — what is reported
* `Host.Decided` — the decisions, and what the three phases do for each
* `Host.Prepared` — the session in which a run comes to emitting code
* `Host.EntryPointSettled` — what a run does about its entry point

## Main statements

* `Host.perform_emit`, `Host.perform_closeTypes` — the first two phases
* `Host.perform_entryPoint_of_some`, `Host.perform_entryPoint_of_none`,
  `Host.perform_entryPoint_of_needless` — the third
* `Host.exists_decided` — the three phases come to a decision
* `Host.run_entryPoint` — what a run does about its entry point
-/

namespace BatchCompiler

namespace Host

open Stage
open Session (Did)

variable {systemDirectory : Path} {toolkit : Text.Toolkit} {s s' s₁ s₂ : Session Manifest}
  {c : Collaborators Manifest}

theorem Same.did (h : Same s s') : Did [] [] s s' := .of_eq h.journal h.engine

theorem did_of_same {calls : List Call} {rs : List Report} {s'' : Session Manifest}
    (h : Did calls rs s s') (hsame : Same s' s'') : Did calls rs s s'' := by
  have hdid := h.trans hsame.did
  rwa [List.append_nil, List.append_nil] at hdid

/-! ## Jobs and checks -/

theorem perform_enter (phase : Phase) (s : Session Manifest) :
    ∃ s', perform (enter phase) s = (.ok (), s') ∧ Same s s' ∧ s'.phase = phase :=
  ⟨_, rfl, ⟨rfl, rfl, rfl, rfl⟩, rfl⟩

/-- **A check for fatal errors** does nothing where errors are not fatal. -/
theorem perform_stopIfFatal (hcalm : s.engine.policy.fatal = false) :
    perform stopIfFatal s = (.ok (), s) := by
  rw [Stage.perform_stopIfFatal, Engine.fatalErrorSeen, hcalm, Bool.false_and, if_neg (by decide)]

/-- **A gate** ends the run if an error is counted, and does nothing else. -/
theorem perform_gate (hcalm : s.engine.policy.fatal = false) :
    ∃ s', perform gate s =
      (if s.engine.errors = 0 then .ok () else .error (.halted s.phase), s') ∧ Same s s' := by
  obtain ⟨events, -, hgate⟩ := Stage.perform_gate s
  rw [hcalm, if_neg Bool.false_ne_true] at hgate
  exact ⟨_, hgate, rfl, rfl, rfl, rfl⟩

/-- **A report** is submitted, and nothing else done. -/
theorem did_report (r : Report) (s : Session Manifest) :
    ∃ s', perform (report r) s = (.ok (), s') ∧ Did [] [r] s s' ∧ s'.draft = s.draft :=
  ⟨_, rfl, ⟨⟨[], (List.append_nil _).symm, rfl⟩, Desk.takeAll_engine s.bench.desk [.report r]⟩, rfl⟩

theorem phase_of_lap {message : String} (hlap : perform (lap message) s = (.ok (), s')) :
    s'.phase = s.phase := by
  obtain ⟨events, hsaying⟩ := perform_lap message s
  obtain ⟨-, rfl⟩ := Prod.mk.inj (hlap.symm.trans hsaying)
  rfl

/-- **The start of a phase** that tells the time. -/
theorem perform_announce (phase : Phase) (message : String) (s : Session Manifest) :
    ∃ s', (∀ rest : Stage Manifest Unit,
        perform (do enter phase; lap message; rest) s = perform rest s') ∧
      Same s s' ∧ s'.phase = phase := by
  obtain ⟨s₁, henter, hsame₁, hphase₁⟩ := perform_enter phase s
  obtain ⟨s₂, hlap, hsame₂⟩ := same_lap message s₁
  refine ⟨s₂, fun rest => ?_, hsame₁.trans hsame₂, (phase_of_lap hlap).trans hphase₁⟩
  rw [perform_bind, henter]
  dsimp only
  rw [perform_bind, hlap]

/-- **The end of a phase** that tells the time and is gated. -/
theorem perform_lap_gate (message : String) (hcalm : s.engine.policy.fatal = false) :
    ∃ s', perform (do lap message; gate) s =
      (if s.engine.errors = 0 then .ok () else .error (.halted s.phase), s') ∧ Same s s' := by
  obtain ⟨s₁, hlap, hsame⟩ := same_lap message s
  have hcalm₁ : s₁.engine.policy.fatal = false := by rw [hsame.engine, hcalm]
  obtain ⟨s', hgate, hsame'⟩ := perform_gate hcalm₁
  refine ⟨s', ?_, hsame.trans hsame'⟩
  rw [perform_bind, hlap]
  dsimp only
  rw [hgate, phase_of_lap hlap, hsame.engine]

/-! ## Choosing among the candidates -/

theorem severity_ambiguous (tree : ProgramTree) (candidate : EntryPoint) :
    (ambiguous tree candidate).diagnostic.severity = .error := by
  unfold ambiguous
  cases tree.declaration? candidate.declaringType with
  | none => rfl
  | some declaration => rfl

/-- Whatever is reported over the candidates is an error. -/
theorem severity_selectEntryPoint (tree : ProgramTree) (context : EmitContext) :
    ∀ r ∈ (selectEntryPoint tree context).2, r.diagnostic.severity = .error := by
  unfold selectEntryPoint
  split
  · nofun
  · split
    · nofun
    · nofun
    · intro r mem
      obtain ⟨candidate, -, rfl⟩ := List.mem_map.mp mem
      exact severity_ambiguous tree candidate

section Select

variable {tree : ProgramTree} {context : EmitContext}

theorem selectEntryPoint_of_needless (h : context.target.needsEntryPoint = false) :
    selectEntryPoint tree context = (none, []) := by
  unfold selectEntryPoint
  rw [h]
  rfl

theorem selectEntryPoint_of_none (hneeds : context.target.needsEntryPoint = true)
    (h : allowedCandidates tree context.mainClass = []) :
    selectEntryPoint tree context = (none, []) := by
  unfold selectEntryPoint
  rw [hneeds, h]
  rfl

theorem selectEntryPoint_of_single {entry : EntryPoint}
    (hneeds : context.target.needsEntryPoint = true)
    (h : allowedCandidates tree context.mainClass = [entry]) :
    selectEntryPoint tree context = (some entry, []) := by
  unfold selectEntryPoint
  rw [hneeds, h]
  rfl

theorem selectEntryPoint_of_several (hneeds : context.target.needsEntryPoint = true)
    (h : 2 ≤ (allowedCandidates tree context.mainClass).length) :
    selectEntryPoint tree context =
      (none, (allowedCandidates tree context.mainClass).map (ambiguous tree)) := by
  unfold selectEntryPoint
  rw [hneeds]
  rcases hcandidates : allowedCandidates tree context.mainClass with _ | ⟨first, _ | ⟨second, rest⟩⟩
  · simp [hcandidates] at h
  · simp [hcandidates] at h
  · rfl

end Select

/-! ## The three phases -/

/-- **The code generator** is called once, and reports what it finds wrong with the candidates. -/
theorem did_consult_emit (tree : ProgramTree) (context : EmitContext) (s : Session Manifest) :
    ∃ s', perform (consult .emit
        ((collaborators systemDirectory toolkit).codegen.emit tree context)) s =
          (.ok (selectEntryPoint tree context).1, s') ∧
      Did [.emit] (selectEntryPoint tree context).2 s s' ∧ s'.draft = s.draft ∧ s'.phase = s.phase :=
  ⟨_, rfl, ⟨⟨_, rfl, rfl⟩, Job.consult_engine .emit _ s.bench⟩, rfl, rfl⟩

/-- **Emitting code** calls the code generator, and ends the run if that reports more than one
candidate. -/
theorem perform_emit (hclean : s.engine.errors = 0) (hcalm : s.engine.policy.fatal = false) :
    ∃ s', perform (emit (collaborators systemDirectory toolkit)) s =
        (if (selectEntryPoint s.tree (emitContext s.config)).2 = [] then .ok ()
          else .error (.halted .emit), s') ∧
      Did [.emit] (selectEntryPoint s.tree (emitContext s.config)).2 s s' ∧
      s'.draft = { s.draft with
        entryPoint := (selectEntryPoint s.tree (emitContext s.config)).1 } := by
  unfold emit
  obtain ⟨s₁, hannounce, hsame, hphase⟩ := perform_announce .emit "Emitting code" s
  have htree : s₁.tree = s.tree := congrArg Draft.tree hsame.draft
  have hconfig : s₁.config = s.config := congrArg Draft.config hsame.draft
  obtain ⟨s₂, hconsult, hdid₂, hdraft₂, hphase₂⟩ :=
    @did_consult_emit systemDirectory toolkit s.tree (emitContext s.config) s₁
  have hdid : Did [.emit] (selectEntryPoint s.tree (emitContext s.config)).2 s s₂ :=
    hsame.did.trans hdid₂
  have hcalm₂ : s₂.engine.policy.fatal = false := by
    rw [hdid.engine, Engine.submitAll_policy, hcalm]
  obtain ⟨s', hgate, hsame'⟩ := @perform_lap_gate
    { s₂ with entryPoint := (selectEntryPoint s.tree (emitContext s.config)).1 }
    "   Code emitted" hcalm₂
  refine ⟨s', ?_, ?_, ?_⟩
  · rw [hannounce, perform_bind, perform_get]
    dsimp only
    rw [htree, hconfig, perform_bind, hconsult]
    dsimp only
    rw [perform_bind, perform_modify]
    dsimp only
    rw [hgate, hphase₂, hphase, hdid.engine]
    simp only [Engine.errors_submitAll_eq_zero_iff (severity_selectEntryPoint _ _) hclean]
  · have hdid₃ : Did [.emit] (selectEntryPoint s.tree (emitContext s.config)).2 s
        { s₂ with entryPoint := (selectEntryPoint s.tree (emitContext s.config)).1 } :=
      ⟨hdid.journal, hdid.engine⟩
    exact did_of_same hdid₃ hsame'
  · have hdraft' : s'.draft = { s₂.draft with
        entryPoint := (selectEntryPoint s.tree (emitContext s.config)).1 } := hsame'.draft
    rw [hdraft', hdraft₂, hsame.draft]

/-- **Closing types** calls the type system once, which leaves the tree. -/
theorem perform_closeTypes (hcalm : s.engine.policy.fatal = false) :
    ∃ s',
      perform (do closeTypes (collaborators systemDirectory toolkit); stopIfFatal) s = (.ok (), s') ∧
      Did [.closeTypes] [] s s' ∧ s'.draft = s.draft := by
  unfold closeTypes
  obtain ⟨s₁, hannounce, hsame, -⟩ := perform_announce .closeTypes "Closing types" s
  have htree : s₁.tree = s.tree := congrArg Draft.tree hsame.draft
  obtain ⟨s₂, hask, hdid₂, hdraft₂⟩ : ∃ s₂, perform
      (ask .closeTypes ((collaborators systemDirectory toolkit).types.closeTypes s₁.tree)) s₁ =
        (.ok s₁.tree, s₂) ∧ Did [.closeTypes] [] s₁ s₂ ∧ s₂.draft = s₁.draft :=
    ⟨_, rfl, ⟨⟨_, rfl, rfl⟩, Job.ask_engine .closeTypes _ s₁.bench⟩, rfl⟩
  have hdid : Did [.closeTypes] [] s s₂ := hsame.did.trans hdid₂
  have hcalm₂ : s₂.engine.policy.fatal = false := by rw [hdid.engine, Engine.submitAll_nil, hcalm]
  refine ⟨{ s₂ with tree := s₁.tree }, ?_, ⟨hdid.journal, hdid.engine⟩, ?_⟩
  · simp only [bind_assoc]
    rw [hannounce, perform_bind, perform_get]
    dsimp only
    rw [perform_bind, hask]
    dsimp only
    rw [perform_bind, perform_modify]
    exact perform_stopIfFatal hcalm₂
  · have hdraft' : ({ s₂ with tree := s₁.tree } : Session Manifest).draft =
        { s₂.draft with tree := s₁.tree } := rfl
    rw [hdraft', hdraft₂, htree, hsame.draft]
    rfl

/-! ### What is wrong without an entry point -/

/-- **The error over a program without an entry point.**  There is none at all, or the main class is
not declared, cannot have one, or has none. -/
def withoutMain (tree : ProgramTree) (output : Path) : Option String → Diagnostic
  | none => ⟨.error, 5001, "Program `" ++ output.text ++
      "' does not contain a static `Main' method suitable for an entry point", none⟩
  | some name =>
      match tree.declaration? name with
      | none => ⟨.error, 1555, "Could not find `" ++ name ++ "' specified for Main method", none⟩
      | some declaration =>
          if declaration.kind = .class ∨ declaration.kind = .struct then
            ⟨.error, 1558, "`" ++ name ++ "' does not have a suitable static Main method",
              some declaration.location⟩
          else
            ⟨.error, 1556, "`" ++ name ++
              "' specified for Main method must be a valid class or struct", none⟩

theorem severity_withoutMain (tree : ProgramTree) (output : Path) (mainClass : Option String) :
    (withoutMain tree output mainClass).severity = .error := by
  unfold withoutMain
  split
  · rfl
  · split
    · rfl
    · split
      · rfl
      · rfl

/-- **What is missing is reported** where no error is counted. -/
theorem missingEntryPoint?_eq {path : Path} (houtput : s.output = some path)
    (hclean : s.engine.errors = 0) :
    missingEntryPoint? s = some (.plain (withoutMain s.tree path s.config.mainClass)) := by
  have hnone : s.engine.hasErrors = false := decide_eq_false hclean.not_gt
  unfold missingEntryPoint? withoutMain
  cases s.config.mainClass with
  | none =>
      -- Here a report is kept back behind an error, and there is none.
      dsimp only
      rw [hnone, houtput]
      rfl
  | some name =>
      dsimp only
      cases s.tree.declaration? name with
      | none => rfl
      | some declaration =>
          dsimp only
          cases declaration.kind <;> rfl

/-! ### Defining the entry point -/

/-- The error over a main class where there is no program. -/
def mainOfLibrary : Diagnostic :=
  ⟨.error, 2017, "Cannot specify -main if building a module or library", none⟩

/-- **What is not a program** gets no entry point, and must not have a main class. -/
theorem perform_entryPoint_of_needless (hneeds : s.config.target.needsEntryPoint = false) :
    ∃ s', perform (entryPoint (collaborators systemDirectory toolkit)) s = (.ok (), s') ∧
      Did [] (if s.config.mainClass.isSome then [.plain mainOfLibrary] else []) s s' ∧
      s'.output = s.output := by
  unfold entryPoint
  obtain ⟨s₁, henter, hsame, -⟩ := perform_enter .entryPoint s
  have hconfig : s₁.config = s.config := congrArg Draft.config hsame.draft
  have houtput : s₁.output = s.output := congrArg Draft.output hsame.draft
  rw [perform_bind, henter]
  dsimp only
  rw [perform_bind, perform_get]
  dsimp only
  rw [hconfig, hneeds]
  cases s.config.mainClass.isSome with
  | false => exact ⟨s₁, rfl, hsame.did, houtput⟩
  | true =>
      obtain ⟨s', hreport, hdid, hdraft⟩ := did_report (.plain mainOfLibrary) s₁
      exact ⟨s', hreport, hsame.did.trans hdid, (congrArg Draft.output hdraft).trans houtput⟩

/-- **The entry point chosen** is defined for the subsystem of the target. -/
theorem perform_entryPoint_of_some {entry : EntryPoint}
    (hneeds : s.config.target.needsEntryPoint = true) (hentry : s.entryPoint = some entry) :
    ∃ s', perform (entryPoint (collaborators systemDirectory toolkit)) s = (.ok (), s') ∧
      Did [.defineEntryPoint entry s.config.target.subsystem] [] s s' ∧ s'.output = s.output := by
  unfold entryPoint
  obtain ⟨s₁, henter, hsame, -⟩ := perform_enter .entryPoint s
  have hconfig : s₁.config = s.config := congrArg Draft.config hsame.draft
  have houtput : s₁.output = s.output := congrArg Draft.output hsame.draft
  have hentry₁ : s₁.entryPoint = some entry := (congrArg Draft.entryPoint hsame.draft).trans hentry
  obtain ⟨s₂, hlog, hsame₂⟩ : ∃ s₂, perform
      (log .debug ("entry point " ++ entry.declaringType ++ "." ++ entry.method)) s₁ =
        (.ok (), s₂) ∧ Same s₁ s₂ := ⟨_, rfl, rfl, rfl, rfl, rfl⟩
  obtain ⟨s', hask, hdid, houtput'⟩ : ∃ s', perform
      (ask (.defineEntryPoint entry s.config.target.subsystem)
        ((collaborators systemDirectory toolkit).output.defineEntryPoint entry
          s.config.target.subsystem))
      s₂ = (.ok (), s') ∧ Did [.defineEntryPoint entry s.config.target.subsystem] [] s₂ s' ∧
        s'.output = s₂.output :=
    ⟨_, rfl, ⟨⟨_, rfl, rfl⟩, Job.ask_engine _ _ s₂.bench⟩, rfl⟩
  have houtput₂ : s₂.output = s₁.output := congrArg Draft.output hsame₂.draft
  refine ⟨s', ?_, (hsame.trans hsame₂).did.trans hdid, ?_⟩
  · rw [perform_bind, henter]
    dsimp only
    rw [perform_bind, perform_get]
    dsimp only
    rw [hconfig, hneeds, hentry₁, if_neg (by decide)]
    dsimp only
    rw [perform_bind, hlog]
    exact hask
  · rw [houtput', houtput₂, houtput]

/-- **A program without an entry point** ends the run, and what is wrong is reported. -/
theorem perform_entryPoint_of_none {path : Path}
    (hneeds : s.config.target.needsEntryPoint = true) (hentry : s.entryPoint = none)
    (houtput : s.output = some path) (hclean : s.engine.errors = 0) :
    ∃ s', perform (entryPoint (collaborators systemDirectory toolkit)) s =
        (.error (.halted .entryPoint), s') ∧
      Did [] [.plain (withoutMain s.tree path s.config.mainClass)] s s' := by
  unfold entryPoint
  obtain ⟨s₁, henter, hsame, -⟩ := perform_enter .entryPoint s
  have hconfig : s₁.config = s.config := congrArg Draft.config hsame.draft
  have htree : s₁.tree = s.tree := congrArg Draft.tree hsame.draft
  have hentry₁ : s₁.entryPoint = none := (congrArg Draft.entryPoint hsame.draft).trans hentry
  have houtput₁ : s₁.output = some path := (congrArg Draft.output hsame.draft).trans houtput
  have hclean₁ : s₁.engine.errors = 0 := by rw [hsame.engine, hclean]
  obtain ⟨s', hreport, hdid, -⟩ :=
    did_report (.plain (withoutMain s₁.tree path s₁.config.mainClass)) s₁
  rw [htree, hconfig] at hreport hdid
  refine ⟨s', ?_, hsame.did.trans hdid⟩
  rw [perform_bind, henter]
  dsimp only
  rw [perform_bind, perform_get]
  dsimp only
  rw [missingEntryPoint?_eq houtput₁ hclean₁, hconfig, htree, hneeds, hentry₁, if_neg (by decide)]
  dsimp only
  rw [perform_bind, hreport]
  rfl

/-! ## The decision -/

/-- **What is decided about an entry point**, by how the phases end: a program has one candidate,
which is defined, or several, which are reported, or none, and then what is wrong is reported; what
is not a program has none, and a main class is an error. -/
inductive Decided (s : Session Manifest) : Except Stop Unit → Session Manifest → Prop
  | defined {entry : EntryPoint} {s' : Session Manifest}
      (hneeds : s.config.target.needsEntryPoint = true)
      (hcandidates : allowedCandidates s.tree s.config.mainClass = [entry])
      (hdid : Did [.emit, .closeTypes, .defineEntryPoint entry s.config.target.subsystem] [] s s')
      (houtput : s'.output = s.output) : Decided s (.ok ()) s'
  | several {s' : Session Manifest} (hneeds : s.config.target.needsEntryPoint = true)
      (hcandidates : 2 ≤ (allowedCandidates s.tree s.config.mainClass).length)
      (hdid : Did [.emit]
        ((allowedCandidates s.tree s.config.mainClass).map (ambiguous s.tree)) s s') :
      Decided s (.error (.halted .emit)) s'
  | missing {path : Path} {s' : Session Manifest}
      (hneeds : s.config.target.needsEntryPoint = true)
      (hcandidates : allowedCandidates s.tree s.config.mainClass = [])
      (houtput : s.output = some path)
      (hdid : Did [.emit, .closeTypes]
        [.plain (withoutMain s.tree path s.config.mainClass)] s s') :
      Decided s (.error (.halted .entryPoint)) s'
  | needless {s' : Session Manifest} (hneeds : s.config.target.needsEntryPoint = false)
      (hdid : Did [.emit, .closeTypes]
        (if s.config.mainClass.isSome then [.plain mainOfLibrary] else []) s s')
      (houtput : s'.output = s.output) : Decided s (.ok ()) s'

/-- **Up to the entry point** nothing is reported, if the candidates are not too many. -/
theorem perform_upToEntryPoint {found : Option EntryPoint}
    (hfound : selectEntryPoint s.tree (emitContext s.config) = (found, []))
    (hclean : s.engine.errors = 0) (hcalm : s.engine.policy.fatal = false) :
    ∃ s', perform (inTurn (entryLegs (collaborators systemDirectory toolkit))) s =
        perform (entryPoint (collaborators systemDirectory toolkit)) s' ∧
      Did [.emit, .closeTypes] [] s s' ∧ s'.config = s.config ∧ s'.tree = s.tree ∧
      s'.output = s.output ∧ s'.entryPoint = found := by
  obtain ⟨s₁, hemit, hdid₁, hdraft₁⟩ := @perform_emit systemDirectory toolkit s hclean hcalm
  rw [hfound] at hemit hdid₁ hdraft₁
  have hcalm₁ : s₁.engine.policy.fatal = false := by
    rw [hdid₁.engine, Engine.submitAll_nil, hcalm]
  obtain ⟨s₂, hclose, hdid₂, hdraft₂⟩ := @perform_closeTypes systemDirectory toolkit s₁ hcalm₁
  have hdraft : s₂.draft = { s.draft with entryPoint := found } := hdraft₂.trans hdraft₁
  refine ⟨s₂, ?_, hdid₁.trans hdid₂, congrArg Draft.config hdraft, congrArg Draft.tree hdraft,
    congrArg Draft.output hdraft, congrArg Draft.entryPoint hdraft⟩
  unfold entryLegs
  rw [perform_inTurn_of_ok hemit, perform_inTurn_of_ok hclose]
  unfold inTurn
  rw [show inTurn ([] : List (Leg Manifest)) = pure () from rfl, bind_pure_unit]

section Decide

variable (hclean : s.engine.errors = 0) (hcalm : s.engine.policy.fatal = false)

include hclean hcalm

theorem decided_of_needless (hneeds : s.config.target.needsEntryPoint = false) :
    ∃ result s',
      perform (inTurn (entryLegs (collaborators systemDirectory toolkit))) s = (result, s') ∧
      Decided s result s' := by
  have hfound := @selectEntryPoint_of_needless s.tree (emitContext s.config) hneeds
  obtain ⟨s₁, hrun, hdid₁, hconfig, -, houtput₁, -⟩ :=
    @perform_upToEntryPoint systemDirectory toolkit s none hfound hclean hcalm
  rw [← hconfig] at hneeds
  obtain ⟨s', hentry, hdid₂, houtput₂⟩ :=
    @perform_entryPoint_of_needless systemDirectory toolkit s₁ hneeds
  rw [hconfig] at hneeds hdid₂
  exact ⟨_, s', hrun.trans hentry, .needless hneeds (hdid₁.trans hdid₂) (houtput₂.trans houtput₁)⟩

theorem decided_of_none {path : Path} (houtput : s.output = some path)
    (hneeds : s.config.target.needsEntryPoint = true)
    (hcandidates : allowedCandidates s.tree s.config.mainClass = []) :
    ∃ result s',
      perform (inTurn (entryLegs (collaborators systemDirectory toolkit))) s = (result, s') ∧
      Decided s result s' := by
  have hfound := @selectEntryPoint_of_none s.tree (emitContext s.config) hneeds hcandidates
  obtain ⟨s₁, hrun, hdid₁, hconfig, htree, houtput₁, hnone⟩ :=
    @perform_upToEntryPoint systemDirectory toolkit s none hfound hclean hcalm
  have hclean₁ : s₁.engine.errors = 0 := by rw [hdid₁.engine, Engine.submitAll_nil, hclean]
  rw [← hconfig] at hneeds
  obtain ⟨s', hentry, hdid₂⟩ :=
    @perform_entryPoint_of_none systemDirectory toolkit s₁ path hneeds hnone
    (houtput₁.trans houtput) hclean₁
  rw [hconfig] at hneeds hdid₂
  rw [htree] at hdid₂
  exact ⟨_, s', hrun.trans hentry, .missing hneeds hcandidates houtput (hdid₁.trans hdid₂)⟩

theorem decided_of_single {entry : EntryPoint}
    (hneeds : s.config.target.needsEntryPoint = true)
    (hcandidates : allowedCandidates s.tree s.config.mainClass = [entry]) :
    ∃ result s',
      perform (inTurn (entryLegs (collaborators systemDirectory toolkit))) s = (result, s') ∧
      Decided s result s' := by
  have hfound := @selectEntryPoint_of_single s.tree (emitContext s.config) entry hneeds hcandidates
  obtain ⟨s₁, hrun, hdid₁, hconfig, -, houtput₁, hsome⟩ :=
    @perform_upToEntryPoint systemDirectory toolkit s (some entry) hfound hclean hcalm
  rw [← hconfig] at hneeds
  obtain ⟨s', hentry, hdid₂, houtput₂⟩ :=
    @perform_entryPoint_of_some systemDirectory toolkit s₁ entry hneeds hsome
  rw [hconfig] at hneeds hdid₂
  exact ⟨_, s', hrun.trans hentry, .defined hneeds hcandidates (hdid₁.trans hdid₂)
    (houtput₂.trans houtput₁)⟩

theorem decided_of_several (hneeds : s.config.target.needsEntryPoint = true)
    (hseveral : 2 ≤ (allowedCandidates s.tree s.config.mainClass).length) :
    ∃ result s',
      perform (inTurn (entryLegs (collaborators systemDirectory toolkit))) s = (result, s') ∧
      Decided s result s' := by
  have hfound := @selectEntryPoint_of_several s.tree (emitContext s.config) hneeds hseveral
  obtain ⟨s', hemit, hdid, -⟩ := @perform_emit systemDirectory toolkit s hclean hcalm
  have hreports : (selectEntryPoint s.tree (emitContext s.config)).2 ≠ [] := by
    rw [hfound]
    intro hnil
    have hempty : allowedCandidates s.tree s.config.mainClass = [] := List.map_eq_nil_iff.mp hnil
    rw [hempty] at hseveral
    exact absurd hseveral (by decide)
  rw [if_neg hreports] at hemit
  rw [hfound] at hdid
  exact ⟨_, s', perform_inTurn_of_error hemit, .several hneeds hseveral hdid⟩

/-- **The three phases come to a decision**, once the output is open. -/
theorem exists_decided {path : Path} (houtput : s.output = some path) :
    ∃ result s',
      perform (inTurn (entryLegs (collaborators systemDirectory toolkit))) s = (result, s') ∧
      Decided s result s' := by
  cases hneeds : s.config.target.needsEntryPoint with
  | false => exact decided_of_needless hclean hcalm hneeds
  | true =>
      rcases hcandidates : allowedCandidates s.tree s.config.mainClass with _ | ⟨entry, _ | ⟨_, _⟩⟩
      · exact decided_of_none hclean hcalm houtput hneeds hcandidates
      · exact decided_of_single hclean hcalm hneeds hcandidates
      · exact decided_of_several hclean hcalm hneeds (by simp [hcandidates])

end Decide

/-! ## The whole run -/

/-- **A part of a run that has come to its end without an error** has prepared its draft, and there
was no error before. -/
theorem draft_of_prepares {α : Type} {m : Stage Manifest α} {Q : α → Draft Manifest → Prop} {a : α}
    (h : Prepares s.bench.files (· = s.draft) m Q) (hrun : perform m s = (.ok a, s'))
    (hclean : s'.engine.errors = 0) : Q a s'.draft ∧ s.engine.errors = 0 := by
  obtain ⟨hkeeps, hends⟩ := h s rfl fun _ => rfl
  rw [hrun] at hkeeps
  exact ⟨hends a s' hrun hclean, hkeeps.errors_eq_zero hclean⟩

/-- **A run that comes to emitting code** has the sources in its tree and the output open. -/
theorem isOpened_of_comesTo {last : Phase}
    (h : s.ComesTo (collaborators systemDirectory toolkit) last .emit s₁) :
    IsOpened toolkit.decoder s.bench.files systemDirectory s.draft s₁.draft := by
  have hscan : s.draft.config.tokenizeOnly = false := by
    have hgoes := (course_of_emit h.onCourse).1
    unfold Config.stopsAfterParsing at hgoes
    exact (Bool.or_eq_false_iff.mp hgoes).1
  have hparts : inTurn (aheadLegs (collaborators systemDirectory toolkit)) = (do
      beforeDocumentation (collaborators systemDirectory toolkit)
      Stage.documentation (collaborators systemDirectory toolkit)
      verifyUsing (collaborators systemDirectory toolkit)
      assemblyAttributes (collaborators systemDirectory toolkit)) := by
    simp only [inTurn, aheadLegs, frontLegs, beforeDocumentation, bind_assoc, bind_pure_unit]
  have hahead := h.perform_aheadLegs
  rw [hparts] at hahead
  obtain ⟨_, s₂, hbefore, hrest⟩ := perform_bind_eq_ok_iff.mp hahead
  obtain ⟨_, s₃, hdocumentation, hrest⟩ := perform_bind_eq_ok_iff.mp hrest
  obtain ⟨_, s₄, husing, hattributes⟩ := perform_bind_eq_ok_iff.mp hrest
  -- No error is counted in the end, so none was on the way, and the draft can be followed back.
  obtain ⟨hdraft₁, hclean₄⟩ := draft_of_prepares prepares_assemblyAttributes hattributes h.clean.2
  obtain ⟨hdraft₄, hclean₃⟩ := draft_of_prepares prepares_verifyUsing husing hclean₄
  have hdraft₃ : s₃.draft = s₂.draft ∧ s₂.engine.errors = 0 := by
    obtain ⟨result, s₃', hrun, hends⟩ := @perform_documentation systemDirectory toolkit s₂
    rw [hdocumentation] at hrun
    cases hrun
    rcases hends with ⟨doc, hwritten⟩ | ⟨hkeeps, -, hskips⟩
    · exact ⟨hwritten.draft, hwritten.clean⟩
    · exact ⟨(hskips rfl hclean₃).2, hkeeps.errors_eq_zero hclean₃⟩
  have hopened := (draft_of_prepares prepares_beforeDocumentation hbefore hdraft₃.2).1 hscan
  rw [hdraft₁, hdraft₄, hdraft₃.1]
  exact hopened

/-! ## What is told of it -/

/-- **The candidates that a run has to choose from.** -/
def startsOf (decoder : Text.Decoder) (s : Session Manifest) : List EntryPoint :=
  allowedCandidates (treeOf decoder s) s.config.mainClass

/-- **The error over a candidate that is not the only one.** -/
def ambiguity (tree : ProgramTree) (candidate : EntryPoint) : Diagnostic where
  severity := .error
  code := 17
  message := "Program has more than one entry point defined: `" ++ candidate.declaringType ++
    ".Main'"
  location := (tree.declaration? candidate.declaringType).map TypeDeclaration.location

theorem diagnostic_ambiguous (tree : ProgramTree) (candidate : EntryPoint) :
    (ambiguous tree candidate).diagnostic = ambiguity tree candidate := by
  unfold ambiguous ambiguity
  cases tree.declaration? candidate.declaringType with
  | none => rfl
  | some declaration => rfl

/-- **What a session is** in which a run comes to emitting code: the output is open, the sources are
in the tree, and no error is counted. -/
structure Prepared (decoder : Text.Decoder) (s s₁ : Session Manifest) (path : Path) : Prop where
  destination : s.config.destination? = some path
  output : s₁.output = some path
  tree : s₁.tree = treeOf decoder s
  mainClass : s₁.config.mainClass = s.config.mainClass
  target : s₁.config.target = s.config.target
  clean : s₁.engine.errors = 0
  policy : s₁.engine.policy = s.engine.policy

theorem exists_prepared {last : Phase}
    (h : s.ComesTo (collaborators systemDirectory toolkit) last .emit s₁) :
    ∃ path, Prepared toolkit.decoder s s₁ path := by
  have hopened := isOpened_of_comesTo h
  have htree := hopened.tree_eq
  obtain ⟨path, stems, references, linkPaths, hpath, -, -, hdraft⟩ := hopened
  obtain ⟨⟨made, hmade⟩, hclean⟩ := h.clean
  obtain ⟨rs, hengine⟩ := hmade.engine
  refine ⟨path, hpath, congrArg Draft.output hdraft, htree, ?_, ?_, hclean, ?_⟩
  · exact congrArg (fun d => d.config.mainClass) hdraft
  · exact congrArg (fun d => d.config.target) hdraft
  · rw [show s₁.engine = _ from hengine, Engine.submitAll_policy]

theorem Prepared.starts {decoder : Text.Decoder} {path : Path} (h : Prepared decoder s s₁ path) :
    allowedCandidates s₁.tree s₁.config.mainClass = startsOf decoder s := by
  rw [h.tree, h.mainClass]
  rfl

/-- **What a run does about its entry point** once it has come to emitting code in `s₁`, by its
result and the calls it has made.  There is one case for each target and number of candidates. -/
inductive EntryPointSettled (c : Collaborators Manifest) (last : Phase)
    (s s₁ : Session Manifest) :
    Except Stop RunOutcome → Session Manifest → List JournalEntry → Prop
  /-- The only candidate of a program is defined once, for the subsystem of the target, and nothing
  is reported by then. -/
  | single {entry : EntryPoint} {s₂ : Session Manifest} {result : Except Stop RunOutcome}
      {s' : Session Manifest} {made : List JournalEntry}
      (hneeds : s.config.target.needsEntryPoint = true)
      (hstarts : startsOf c.toolkit.decoder s = [entry])
      (hdefinitions : definitions made = [(entry, s.config.target.subsystem)])
      (hcomes : s.ComesTo c last .emitResources s₂) (hengine : s₂.engine = s₁.engine) :
      EntryPointSettled c last s s₁ result s' made
  /-- Several candidates of a program are reported in their order, and end the run. -/
  | several {s' : Session Manifest} {made : List JournalEntry}
      (hneeds : s.config.target.needsEntryPoint = true)
      (hstarts : 2 ≤ (startsOf c.toolkit.decoder s).length)
      (hdefinitions : definitions made = [])
      (hdiagnostics : s'.engine.diagnostics =
        s₁.engine.diagnostics ++ (startsOf c.toolkit.decoder s).map
          (ambiguity (treeOf c.toolkit.decoder s))) :
      EntryPointSettled c last s s₁ (.error (.halted .emit)) s' made
  /-- Where a program has no candidate it is reported what is wrong, and the run is ended. -/
  | missing {path : Path} {s' : Session Manifest} {made : List JournalEntry}
      (hneeds : s.config.target.needsEntryPoint = true)
      (hstarts : startsOf c.toolkit.decoder s = [])
      (hdefinitions : definitions made = []) (hpath : s.config.destination? = some path)
      (hdiagnostics : s'.engine.diagnostics =
        s₁.engine.diagnostics ++
          [withoutMain (treeOf c.toolkit.decoder s) path s.config.mainClass]) :
      EntryPointSettled c last s s₁ (.error (.halted .entryPoint)) s' made
  /-- What is not a program gets no entry point, and a main class is reported. -/
  | needless {s₂ : Session Manifest} {result : Except Stop RunOutcome} {s' : Session Manifest}
      {made : List JournalEntry} (hneeds : s.config.target.needsEntryPoint = false)
      (hdefinitions : definitions made = [])
      (hcomes : s.ComesTo c last .emitResources s₂)
      (hdiagnostics : s₂.engine.diagnostics =
        s₁.engine.diagnostics ++ if s.config.mainClass.isSome then [mainOfLibrary] else []) :
      EntryPointSettled c last s s₁ result s' made

/-- What is recorded when candidates are reported. -/
theorem diagnostics_of_ambiguous {calls : List Call} {tree : ProgramTree}
    {candidates : List EntryPoint} (h : Did calls (candidates.map (ambiguous tree)) s s') :
    s'.engine.diagnostics = s.engine.diagnostics ++ candidates.map (ambiguity tree) := by
  rw [h.engine, Engine.submitAll_diagnostics_of_errors, List.map_map]
  · rw [show Report.diagnostic ∘ ambiguous tree = ambiguity tree from
      funext (diagnostic_ambiguous tree)]
  · intro r mem
    obtain ⟨candidate, -, rfl⟩ := List.mem_map.mp mem
    exact severity_ambiguous tree candidate

/-- What is recorded when one error is reported. -/
theorem diagnostics_of_plain {calls : List Call} {d : Diagnostic}
    (h : Did calls [.plain d] s s') (hsevere : d.severity = .error) :
    s'.engine.diagnostics = s.engine.diagnostics ++ [d] := by
  rw [h.engine, Engine.submitAll_diagnostics_of_errors]
  · rfl
  · intro r mem
    rw [List.mem_singleton.mp mem]
    exact hsevere

/-- What is recorded about a main class where there is no program. -/
theorem diagnostics_of_main {calls : List Call} {given : Bool}
    (h : Did calls (if given then [.plain mainOfLibrary] else []) s s') :
    s'.engine.diagnostics =
      s.engine.diagnostics ++ if given then [mainOfLibrary] else [] := by
  cases given with
  | false =>
      rw [h.engine]
      exact (List.append_nil _).symm
  | true => exact diagnostics_of_plain h rfl

theorem Decided.opens {result : Except Stop Unit} {path : Path} (h : Decided s₁ result s₂)
    (houtput : s₁.output = some path) (hok : result = .ok ()) :
    ∃ path, s₂.output = some path := by
  cases h with
  | defined _ _ _ hsame => exact ⟨path, hsame.trans houtput⟩
  | several => cases hok
  | missing => cases hok
  | needless _ _ hsame => exact ⟨path, hsame.trans houtput⟩

/-- **What a decision comes to** for the run in which it is taken. -/
theorem Prepared.settled {last : Phase} {path : Path} {ended : Except Stop Unit}
    (h : Prepared c.toolkit.decoder s s₁ path) (hcomes : s.ComesTo c last .emit s₁)
    (hrun : perform (inTurn (entryLegs c)) s₁ = (ended, s₂)) (hdecided : Decided s₁ ended s₂) :
    ∃ result s' made, s.run c last = (result, s') ∧
      s'.bench.journal = s.bench.journal ++ made ∧
      EntryPointSettled c last s s₁ result s' made := by
  have hopens := hdecided.opens h.output
  cases hdecided with
  | @defined entry _ hneeds hcandidates hdid _ =>
      rw [h.target] at hneeds hdid
      rw [h.starts] at hcandidates
      obtain ⟨made, hjournal, hmade⟩ := hcomes.exists_definitions hrun hdid hopens
      exact ⟨_, _, made, rfl, hjournal,
        .single hneeds hcandidates hmade (hcomes.emitResources hrun) hdid.engine⟩
  | several hneeds hcandidates hdid =>
      rw [h.target] at hneeds
      rw [h.starts] at hcandidates hdid
      rw [h.tree] at hdid
      obtain ⟨made, hjournal, hmade⟩ := hcomes.exists_definitions hrun hdid hopens
      have hended := hcomes.run_of_error hrun
      rw [hended] at hjournal
      exact ⟨_, _, made, hended, hjournal,
        .several hneeds hcandidates hmade (diagnostics_of_ambiguous hdid)⟩
  | @missing path' _ hneeds hcandidates houtput hdid =>
      obtain rfl : path = path' := Option.some.inj (h.output.symm.trans houtput)
      rw [h.target] at hneeds
      rw [h.starts] at hcandidates
      rw [h.tree, h.mainClass] at hdid
      obtain ⟨made, hjournal, hmade⟩ := hcomes.exists_definitions hrun hdid hopens
      have hended := hcomes.run_of_error hrun
      rw [hended] at hjournal
      have hdiagnostics := diagnostics_of_plain hdid (severity_withoutMain _ _ _)
      exact ⟨_, _, made, hended, hjournal,
        .missing hneeds hcandidates hmade h.destination hdiagnostics⟩
  | needless hneeds hdid _ =>
      rw [h.target] at hneeds
      rw [h.mainClass] at hdid
      obtain ⟨made, hjournal, hmade⟩ := hcomes.exists_definitions hrun hdid hopens
      exact ⟨_, _, made, rfl, hjournal,
        .needless hneeds hmade (hcomes.emitResources hrun) (diagnostics_of_main hdid)⟩

/-- **What a run with the host does about its entry point**, once it has come to emitting code and
where errors are not fatal.

The candidates of a program are those that its main class allows.  If there is one, it is defined
once, for the subsystem of the target, and neither emitting code nor the phase of the entry point
has anything recorded.  If there are several, each is an error of its own, and the run is ended where
code is emitted; if there is none, one error says why, and the run is ended in the phase of the
entry point.  For a library or a module nothing is defined, and a main class is the one error. -/
theorem run_entryPoint {last : Phase}
    (hcomes : s.ComesTo (collaborators systemDirectory toolkit) last .emit s₁)
    (hcalm : s.engine.policy.fatal = false) :
    ∃ result s' made, s.run (collaborators systemDirectory toolkit) last = (result, s') ∧
      s'.bench.journal = s.bench.journal ++ made ∧
      EntryPointSettled (collaborators systemDirectory toolkit) last s s₁ result s' made := by
  obtain ⟨path, hprepared⟩ := exists_prepared hcomes
  have hcalm₁ : s₁.engine.policy.fatal = false := by rw [hprepared.policy, hcalm]
  obtain ⟨ended, s₂, hrun, hdecided⟩ :=
    @exists_decided systemDirectory toolkit s₁ hprepared.clean hcalm₁ path hprepared.output
  exact hprepared.settled hcomes hrun hdecided

/-- A program without sources that could start at one method. -/
def started : Session Manifest :=
  { Session.sourceless .exe with tree := { candidates := [⟨"A", "Main"⟩] } }

theorem startsOf_started (decoder : Text.Decoder) :
    startsOf decoder started = [⟨"A", "Main"⟩] := by cbv

theorem exists_comesTo_started :
    ∃ s₁, started.ComesTo (collaborators ⟨""⟩) .save .emit s₁ := by
  have hok : (perform (inTurn ((course (collaborators ⟨""⟩) .save started.config).takeWhile
      (·.1 ≠ .emit))) { started with finished := true }).1 = .ok () := by cbv
  rcases hrun : perform (inTurn ((course (collaborators ⟨""⟩) .save started.config).takeWhile
      (·.1 ≠ .emit))) { started with finished := true } with ⟨result, s₁⟩
  rw [hrun] at hok
  obtain rfl : result = .ok () := hok
  exact ⟨s₁, rfl, by decide, hrun⟩

/-- The method is defined as the entry point of a console program. -/
theorem run_entryPoint_started : ∃ result s' made,
    started.run (collaborators ⟨""⟩) .save = (result, s') ∧
      s'.bench.journal = started.bench.journal ++ made ∧
      definitions made = [(⟨"A", "Main"⟩, .console)] := by
  obtain ⟨s₁, hcomes⟩ := exists_comesTo_started
  obtain ⟨result, s', made, hrun, hjournal, hsettled⟩ := run_entryPoint hcomes rfl
  refine ⟨result, s', made, hrun, hjournal, ?_⟩
  cases hsettled with
  | single _ hstarts hdefinitions =>
      rw [startsOf_started] at hstarts
      rw [hdefinitions, ← List.head_eq_of_cons_eq hstarts]
      rfl
  | several _ hstarts =>
      rw [startsOf_started] at hstarts
      exact absurd hstarts (by decide)
  | missing _ hstarts =>
      rw [startsOf_started] at hstarts
      cases hstarts
  | needless hneeds => cases hneeds

end Host

end BatchCompiler

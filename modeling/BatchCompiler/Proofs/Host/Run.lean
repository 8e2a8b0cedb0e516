import BatchCompiler.Proofs.FileSystem.Writing
import BatchCompiler.Proofs.Host.Stages
import BatchCompiler.Proofs.Pipeline.Legs

/-!
# A run with the host

A run to the end writes two files at most: the documentation, in a phase of its own, and the output,
in the last one.  All that lies before, between and behind leaves the files alone.

## Main definitions

* `Bench.GrantsNothing` — whoever was called has refused
* `Stage.beforeDocumentation`, `Stage.beforeSaving` — what leaves the files
* `Stage.behindLegs` — what is done behind the documentation
* `Host.IsOpened`, `Host.IsCompleted` — what is drafted on the way
* `Host.DocumentationWritten`, `Host.OutputWritten` — the two writes
* `Host.Effect` — what a whole run has written

## Main statements

* `Stage.perform_toPhase_of_goes`, `Stage.perform_toPhase_save` — the parts of a run
* `Host.perform_documentation`, `Host.perform_save` — what the two phases that write come to
* `Host.effect_toPhase_save` — what a whole run comes to
-/

namespace BatchCompiler

/-- **Nothing has been granted** since: whoever was called has refused. -/
def Bench.GrantsNothing {σ : Type} (b b' : Bench σ) : Prop :=
  ∃ made, b'.journal = b.journal ++ made ∧ ∀ e ∈ made, e.granted = false

namespace Stage

variable {σ : Type} {c : Collaborators σ} {s : Session σ}

/-! ## The parts of a run to the end -/

/-- **From the sources to the tree.** -/
def beforeDocumentation (c : Collaborators σ) : Stage σ Unit := do
  parse c
  configureDefaults
  loadReferences c
  outputIdentity c
  loadModules c
  stopIfFatal
  coreTypes c
  resolveTree c

/-- **From the using aliases to the native resources.** -/
def beforeSaving (c : Collaborators σ) : Stage σ Unit := do
  verifyUsing c
  assemblyAttributes c
  emit c
  closeTypes c
  stopIfFatal
  entryPoint c
  emitResources c
  nativeResources c
  stopIfFatal

/-- **The legs behind the documentation.** -/
def behindLegs (c : Collaborators σ) (last : Phase) : List (Leg σ) :=
  (.verifyUsing, verifyUsing c) :: (.assemblyAttributes, assemblyAttributes c) ::
    if last.rank < Phase.emit.rank then [] else backLegs c

/-- A run that stops after parsing does nothing else. -/
theorem perform_toPhase_of_stops {last : Phase}
    (hstops : last = .parse ∨ s.config.stopsAfterParsing = true) :
    perform (toPhase c last) s = perform (parse c) s := by
  have hcourse : course c last s.config = [(.parse, parse c)] := by
    unfold course
    split
    · rfl
    · rename_i hlast
      rw [if_pos (hstops.resolve_left hlast)]
  rw [perform_toPhase, hcourse]
  simp only [inTurn, bind_pure_unit]

theorem perform_toPhase_save_of_stops (hstops : s.config.stopsAfterParsing = true) :
    perform (toPhase c .save) s = perform (parse c) s := perform_toPhase_of_stops (.inr hstops)

/-- **The parts of a run** that goes on behind parsing. -/
theorem perform_toPhase_of_goes {last : Phase} (hlast : last ≠ .parse)
    (hgoes : s.config.stopsAfterParsing = false) :
    perform (toPhase c last) s = perform (do
      beforeDocumentation c
      documentation c
      inTurn (behindLegs c last)) s := by
  have hcourse : course c last s.config =
      (.parse, parse c) :: (frontLegs c ++ if last.rank < Phase.emit.rank then [] else backLegs c) := by
    unfold course
    rw [if_neg hlast, hgoes, if_neg (by decide)]
  rw [perform_toPhase, hcourse]
  simp only [inTurn, frontLegs, behindLegs, beforeDocumentation, bind_assoc, List.cons_append,
    List.nil_append]

/-- What is behind the documentation of a run to the end. -/
theorem inTurn_behindLegs {last : Phase} (hback : ¬ last.rank < Phase.emit.rank) :
    inTurn (behindLegs c last) = (do beforeSaving c; save c) := by
  unfold behindLegs
  rw [if_neg hback]
  simp only [inTurn, backLegs, beforeSaving, bind_assoc, bind_pure_unit]

/-- **The parts of a run to the end.** -/
theorem perform_toPhase_save (hgoes : s.config.stopsAfterParsing = false) :
    perform (toPhase c .save) s = perform (do
      beforeDocumentation c
      documentation c
      beforeSaving c
      save c) s := by
  rw [perform_toPhase_of_goes (by decide) hgoes, inTurn_behindLegs (by decide)]

end Stage

namespace Host

open Stage

variable {files : FileSystem} {systemDirectory : Path} {toolkit : Text.Toolkit}
  {d₀ : Draft Manifest}

/-! ## What is drafted -/

/-- **The draft ahead of the documentation**: the sources are scanned and the declarations put in
order, the output is opened, and the modules are linked. -/
def IsOpened (decoder : Text.Decoder) (files : FileSystem) (systemDirectory : Path)
    (d₀ d : Draft Manifest) : Prop :=
  ∃ path stems references linkPaths,
    d₀.config.destination? = some path ∧
    linkPaths = d₀.config.linkPaths ++ [systemDirectory, files.currentPath] ∧
    d₀.config.modules.map (linkedStem? files linkPaths) = stems.map some ∧
    d = { d₀ with
      own := { openedManifest path d₀.config with modules := stems }
      config := { d₀.config with references }
      tree := (scanSources decoder files d₀.config.encoding d₀.tree
        d₀.config.sources.files).sortDeclarations
      linkPaths
      output := some path }

theorem prepares_beforeDocumentation :
    Prepares files (· = d₀) (beforeDocumentation (collaborators systemDirectory toolkit)) fun _ d =>
      d₀.config.tokenizeOnly = false → IsOpened toolkit.decoder files systemDirectory d₀ d := by
  refine prepares_step prepares_parse fun _ d₁ => ?_
  refine prepares_step prepares_configureDefaults fun _ d₂ => ?_
  refine prepares_step prepares_loadReferences fun _ d₃ => ?_
  refine prepares_step prepares_outputIdentity fun _ d₄ => ?_
  refine prepares_step prepares_loadModules fun _ d₅ => ?_
  refine prepares_bind prepares_stopIfFatal fun _ => ?_
  refine prepares_step prepares_coreTypes fun _ d₆ => prepares_resolveTree.post ?_
  rintro _ d rfl rfl ⟨stems, hstems, rfl⟩ ⟨path, hpath, rfl⟩ rfl ⟨references, rfl⟩ hparsed hscan
  obtain rfl := hparsed hscan
  exact ⟨path, stems, references, _, hpath, rfl, hstems, rfl⟩

/-- **The draft ahead of the saving**: the entry point, the resources and the native resources are
in the manifest, and the tree is as it was. -/
def IsCompleted (files : FileSystem) (d₀ d : Draft Manifest) : Prop :=
  ∃ start records resources found,
    found = (selectEntryPoint d₀.tree (emitContext d₀.config)).1 ∧
    (d₀.config.target.needsEntryPoint = true → ∃ entry, found = some entry ∧
      start = startingAt d₀.own entry d₀.config.target.subsystem) ∧
    (d₀.config.target.needsEntryPoint = false → start = d₀.own) ∧
    (d₀.config.resources.emitted = false →
      List.Forall₂ (Records files) d₀.config.resources.toList records) ∧
    d = { d₀ with
      own := withIcon (withNativeResource { start with resources := start.resources ++ records }
        d₀.config.nativeResource) d₀.config.icon
      config := { d₀.config with resources }
      entryPoint := found }

theorem prepares_beforeSaving :
    Prepares files (· = d₀) (beforeSaving (collaborators systemDirectory toolkit)) fun _ d =>
      IsCompleted files d₀ d := by
  refine prepares_step prepares_verifyUsing fun _ d₁ => ?_
  refine prepares_step prepares_assemblyAttributes fun _ d₂ => ?_
  refine prepares_step prepares_emit fun _ d₃ => ?_
  refine prepares_step prepares_closeTypes fun _ d₄ => ?_
  refine prepares_bind prepares_stopIfFatal fun _ => ?_
  refine prepares_step prepares_entryPoint fun _ d₅ => ?_
  refine prepares_step prepares_emitResources fun _ d₆ => ?_
  refine prepares_step prepares_nativeResources fun _ d₇ => prepares_stopIfFatal.post ?_
  rintro _ d rfl rfl ⟨records, resources, hrecords, rfl⟩ ⟨start, hneeds, hnone, rfl⟩ rfl rfl rfl rfl
  exact ⟨start, records, resources, _, rfl, hneeds, hnone, hrecords, rfl⟩

/-! ## The two writes -/

/-- **A session that differs in what it has told only.** -/
structure Same (s s' : Session Manifest) : Prop where
  files : s'.bench.files = s.bench.files
  journal : s'.bench.journal = s.bench.journal
  engine : s'.engine = s.engine
  draft : s'.draft = s.draft

theorem Same.trans {s s' s'' : Session Manifest} (h : Same s s') (h' : Same s' s'') : Same s s'' :=
  ⟨h'.files.trans h.files, h'.journal.trans h.journal, h'.engine.trans h.engine,
    h'.draft.trans h.draft⟩

theorem Same.grantsNothing {s s' : Session Manifest} (h : Same s s') :
    s.bench.GrantsNothing s'.bench := ⟨[], by rw [h.journal, List.append_nil], nofun⟩

theorem Same.keeps {s s' : Session Manifest} (h : Same s s') : s.bench.Keeps s'.bench :=
  ⟨h.files, (congrArg Engine.errors h.engine).ge, h.journal ▸ List.prefix_rfl⟩

/-- **What a call comes to.** -/
theorem perform_ask {α : Type} [Answer α] (call : Call) (act : Act Manifest α)
    (s : Session Manifest) :
    ∃ s', perform (ask call act) s = (.ok (act ⟨s.bench.own, s.bench.files, []⟩).1, s') ∧
      s'.bench.files = (act ⟨s.bench.own, s.bench.files, []⟩).2.files ∧
      s.bench.journal <+: s'.bench.journal ∧ s'.engine = s.engine ∧
      s'.draft = { s.draft with own := (act ⟨s.bench.own, s.bench.files, []⟩).2.own } :=
  ⟨_, rfl, rfl, List.prefix_append _ _, Job.ask_engine call act s.bench, rfl⟩

theorem perform_consult {α : Type} [Answer α] (call : Call)
    (act : Engine → Act Manifest (α × List Report)) (s : Session Manifest) :
    ∃ s', perform (consult call act) s =
        (.ok (act s.engine ⟨s.bench.own, s.bench.files, []⟩).1.1, s') ∧
      s'.bench.files = (act s.engine ⟨s.bench.own, s.bench.files, []⟩).2.files ∧
      s'.bench.journal = s.bench.journal ++ [⟨call, s.engine.errors,
        Answer.granted (act s.engine ⟨s.bench.own, s.bench.files, []⟩).1.1⟩] ∧
      s'.engine = s.engine.submitAll (act s.engine ⟨s.bench.own, s.bench.files, []⟩).1.2 ∧
      s'.draft =
        { s.draft with own := (act s.engine ⟨s.bench.own, s.bench.files, []⟩).2.own } :=
  ⟨_, rfl, rfl, rfl, Job.consult_engine call act s.bench, rfl⟩

theorem same_enter (phase : Phase) (s : Session Manifest) :
    ∃ s', perform (enter phase) s = (.ok (), s') ∧ Same s s' := ⟨_, rfl, rfl, rfl, rfl, rfl⟩

theorem same_lap (message : String) (s : Session Manifest) :
    ∃ s', perform (lap message) s = (.ok (), s') ∧ Same s s' := by
  obtain ⟨events, hlap⟩ := perform_lap message s
  exact ⟨_, hlap, rfl, rfl, rfl, rfl⟩

/-- **A gate that is passed** leaves the session, in which no error is counted. -/
theorem perform_gate_ok {s s' : Session Manifest} (h : perform gate s = (.ok (), s')) :
    s' = s ∧ s.engine.errors = 0 := by
  obtain ⟨events, hquiet, hgate⟩ := Stage.perform_gate s
  rw [hgate] at h
  by_cases herrors : s.engine.errors = 0
  · obtain rfl := hquiet herrors
    rw [saying_nil] at h
    exact ⟨(congrArg Prod.snd h).symm, herrors⟩
  · rw [if_neg herrors] at h
    cases h

/-- The bytes of the documentation of a tree. -/
def documentationBytes (tree : ProgramTree) : List UInt8 :=
  Text.Utf8.encode (documentation (documentedNames tree))

/-- **The documentation has been written**, while no error was counted, and nothing else done. -/
structure DocumentationWritten (doc : Path) (s s' : Session Manifest) : Prop where
  asked : s.config.documentation = some doc
  clean : s.engine.errors = 0
  written : s.bench.files.write doc (documentationBytes s.tree) = .ok s'.bench.files
  journal : s'.bench.journal = s.bench.journal ++ [⟨.exportDocs doc, ⟨0, true⟩⟩]
  engine : s'.engine = s.engine
  draft : s'.draft = s.draft

/-- **The phase of the documentation is behind**, and no error is counted: it has been written, or
none is asked for. -/
inductive Documented (s s' : Session Manifest) : Prop
  | written {doc : Path} (h : DocumentationWritten doc s s')
  | skipped (hnone : s.config.documentation = none) (hfiles : s'.bench.files = s.bench.files)
      (hdraft : s'.draft = s.draft)

theorem Documented.draft {s s' : Session Manifest} (h : Documented s s') : s'.draft = s.draft := by
  cases h with
  | written h => exact h.draft
  | skipped _ _ hdraft => exact hdraft

theorem export_eq (doc : Path) (tree : ProgramTree) (engine : Engine) (own : Manifest) :
    xmlExporter.export_ doc tree engine ⟨own, files, []⟩ =
      match files.write doc (documentationBytes tree) with
      | .ok files' => ((true, []), ⟨own, files', []⟩)
      | .error fault => ((false, [unwritable doc fault]), ⟨own, files, []⟩) := by
  unfold xmlExporter Act.write documentationBytes
  simp only [bind, StateT.bind]
  cases files.write doc (Text.Utf8.encode (documentation (documentedNames tree))) with
  | ok files' => rfl
  | error fault => rfl

/-- Asking for the documentation writes it, or leaves the files and is refused. -/
theorem perform_exportDocs (doc : Path) (tree : ProgramTree) (s : Session Manifest) :
    ∃ written s', perform (consult (.exportDocs doc)
        ((collaborators systemDirectory toolkit).docs.export_ doc tree)) s = (.ok written, s') ∧
      s'.draft = s.draft ∧
      (written = true → s.bench.files.write doc (documentationBytes tree) = .ok s'.bench.files ∧
        s'.bench.journal = s.bench.journal ++ [⟨.exportDocs doc, ⟨s.engine.errors, true⟩⟩] ∧
        s'.engine = s.engine) ∧
      (written = false → s.bench.Keeps s'.bench ∧ s.bench.GrantsNothing s'.bench) := by
  obtain ⟨s', hrun, hfiles, hjournal, hengine, hdraft⟩ :=
    perform_consult (.exportDocs doc) (xmlExporter.export_ doc tree) s
  rw [export_eq] at hrun hfiles hjournal hengine hdraft
  cases hwrite : s.bench.files.write doc (documentationBytes tree) with
  | ok files' =>
      rw [hwrite] at hrun hfiles hjournal hengine hdraft
      exact ⟨true, s', hrun, hdraft, fun _ => ⟨congrArg Except.ok hfiles.symm, hjournal, hengine⟩,
        nofun⟩
  | error fault =>
      rw [hwrite] at hrun hfiles hjournal hengine hdraft
      refine ⟨false, s', hrun, hdraft, nofun, fun _ =>
        ⟨⟨hfiles, ?_, hjournal ▸ List.prefix_append _ _⟩, ⟨_, hjournal, by simp [Answer.granted]⟩⟩⟩
      rw [show s'.bench.engine = _ from hengine]
      exact Engine.errors_le_submitAll _ _

/-- **The phase of the documentation** writes it, or it leaves the files and nobody grants it
anything; and without an error it leaves them only if no documentation is asked for. -/
theorem perform_documentation (s : Session Manifest) :
    ∃ result s',
      perform (Stage.documentation (collaborators systemDirectory toolkit)) s = (result, s') ∧
      ((∃ doc, DocumentationWritten doc s s') ∨
        s.bench.Keeps s'.bench ∧ s.bench.GrantsNothing s'.bench ∧
          (result = .ok () → s'.engine.errors = 0 →
            s.config.documentation = none ∧ s'.draft = s.draft)) := by
  unfold Stage.documentation
  obtain ⟨s₁, henter, hsame⟩ := same_enter .documentation s
  rw [perform_bind, henter]
  dsimp only
  rw [perform_bind, perform_get]
  dsimp only
  have hasked : s₁.config.documentation = s.config.documentation :=
    congrArg (fun d => d.config.documentation) hsame.draft
  cases hdoc : s₁.config.documentation with
  | none =>
      exact ⟨_, _, rfl, .inr ⟨hsame.keeps, hsame.grantsNothing, fun _ _ =>
        ⟨hasked.symm.trans hdoc, hsame.draft⟩⟩⟩
  | some doc =>
      dsimp only
      split
      · rename_i herrors
        rw [Engine.hasErrors, decide_eq_true_iff] at herrors
        exact ⟨_, _, rfl, .inr ⟨hsame.keeps, hsame.grantsNothing, fun _ hzero =>
          absurd hzero herrors.ne'⟩⟩
      · rename_i herrors
        rw [Engine.hasErrors, decide_eq_true_iff] at herrors
        have hclean : s.engine.errors = 0 := by
          rw [← hsame.engine]
          exact Nat.eq_zero_of_not_pos herrors
        have htree : s₁.tree = s.tree := congrArg Draft.tree hsame.draft
        obtain ⟨written, s₂, hconsult, hdraft, hdone, hrefused⟩ :=
          @perform_exportDocs systemDirectory toolkit doc s₁.tree s₁
        rw [perform_bind, hconsult]
        cases written with
        | false =>
            obtain ⟨hkeeps, hnothing⟩ := hrefused rfl
            refine ⟨.error (.fatal .documentation), s₂, rfl,
              .inr ⟨hsame.keeps.trans hkeeps, ?_, fun h => by cases h⟩⟩
            unfold Bench.GrantsNothing at hnothing ⊢
            rwa [hsame.journal] at hnothing
        | true =>
            obtain ⟨hwritten, hjournal, hengine⟩ := hdone rfl
            obtain ⟨s₃, hlap, hsame'⟩ := same_lap "Documentation" s₂
            refine ⟨.ok (), s₃, hlap, .inl ⟨doc, hasked.symm.trans hdoc, hclean, ?_, ?_, ?_, ?_⟩⟩
            · rw [hsame'.files, ← hwritten, hsame.files, htree]
            · rw [hsame'.journal, hjournal, hsame.journal, hsame.engine, hclean]
            · rw [hsame'.engine, hengine, hsame.engine]
            · rw [hsame'.draft, hdraft, hsame.draft]

/-- **The output has been written**, while no error was counted. -/
structure OutputWritten (path : Path) (s s' : Session Manifest) : Prop where
  output : s.output = some path
  clean : s.engine.errors = 0
  written : s.bench.files.write path (Text.Utf8.encode s'.bench.own.text) = .ok s'.bench.files
  draft : s'.draft =
    { s.draft with own := { s.bench.own with debugInfo := s.config.debugInfo } }

theorem saveManifest_eq (path : Path) (debug : Bool) (own : Manifest) :
    saveManifest path debug ⟨own, files, []⟩ =
      match files.write path (Text.Utf8.encode { own with debugInfo := debug }.text) with
      | .ok files' => (.ok (), ⟨{ own with debugInfo := debug }, files',
          [⟨.debug, .manifest, "manifest written to " ++ path.text⟩]⟩)
      | .error fault => (.error fault, ⟨{ own with debugInfo := debug }, files, []⟩) := by
  unfold saveManifest Act.write
  simp only [bind, StateT.bind, Act.change, Act.own, modify, modifyGet, MonadStateOf.modifyGet,
    StateT.modifyGet, pure]
  cases files.write path (Text.Utf8.encode { own with debugInfo := debug }.text) with
  | ok files' => rfl
  | error fault => rfl

/-- Asking to save writes the output, or leaves the files and is refused. -/
theorem perform_ask_save (path : Path) (s : Session Manifest) :
    ∃ answer s', perform (ask (.save path s.config.debugInfo)
        ((collaborators systemDirectory toolkit).output.save path s.config.debugInfo)) s =
          (.ok answer, s') ∧ s'.engine = s.engine ∧ s.bench.journal <+: s'.bench.journal ∧
      s'.draft = { s.draft with own := { s.bench.own with debugInfo := s.config.debugInfo } } ∧
      ((answer = .ok () ∧
          s.bench.files.write path (Text.Utf8.encode s'.bench.own.text) = .ok s'.bench.files) ∨
        (∃ fault, answer = .error fault) ∧ s'.bench.files = s.bench.files) := by
  obtain ⟨s', hrun, hfiles, hjournal, hengine, hdraft⟩ := perform_ask
    (.save path s.config.debugInfo) (saveManifest path s.config.debugInfo) s
  rw [saveManifest_eq] at hrun hfiles hdraft
  have hown : s'.bench.own = _ := congrArg Draft.own hdraft
  cases hwrite : s.bench.files.write path
      (Text.Utf8.encode { s.bench.own with debugInfo := s.config.debugInfo }.text) with
  | ok files' =>
      rw [hwrite] at hrun hfiles hdraft hown
      refine ⟨_, s', hrun, hengine, hjournal, hdraft, .inl ⟨rfl, ?_⟩⟩
      rw [hown, hfiles]
      exact hwrite
  | error fault =>
      rw [hwrite] at hrun hfiles hdraft
      exact ⟨_, s', hrun, hengine, hjournal, hdraft, .inr ⟨⟨fault, rfl⟩, hfiles⟩⟩

/-- Behind the save nothing is done but telling. -/
theorem perform_saved (path : Path) (s : Session Manifest) :
    ∃ s', perform (do log .info ("saved " ++ path.text); lap "Saved output"; lap "Total") s =
      (.ok (), s') ∧ Same s s' := by
  have hlog : ∃ s₁, perform (log .info ("saved " ++ path.text)) s = (.ok (), s₁) ∧ Same s s₁ :=
    ⟨_, rfl, rfl, rfl, rfl, rfl⟩
  obtain ⟨s₁, hlog, hsame₁⟩ := hlog
  obtain ⟨s₂, hlap₂, hsame₂⟩ := same_lap "Saved output" s₁
  obtain ⟨s₃, hlap₃, hsame₃⟩ := same_lap "Total" s₂
  refine ⟨s₃, ?_, (hsame₁.trans hsame₂).trans hsame₃⟩
  rw [perform_bind, hlog]
  dsimp only
  rw [perform_bind, hlap₂]
  exact hlap₃

/-- **The phase of the saving** writes the output, or it leaves the files and ends the run. -/
theorem perform_save (s : Session Manifest) :
    ∃ result s', perform (save (collaborators systemDirectory toolkit)) s = (result, s') ∧
      ((result = .ok () ∧ ∃ path, OutputWritten path s s') ∨
        (∃ stop, result = .error stop) ∧ s.bench.Keeps s'.bench) := by
  unfold save
  obtain ⟨s₁, henter, hsame⟩ := same_enter .save s
  rw [perform_bind, henter]
  dsimp only
  obtain ⟨hkeeps, -⟩ := @prepares_gate Manifest s₁.bench.files (fun _ => True) s₁ rfl
    fun _ => trivial
  rw [perform_bind]
  rcases hgate : perform gate s₁ with ⟨stop | _, s₂⟩
  · rw [hgate] at hkeeps
    exact ⟨_, _, rfl, .inr ⟨⟨stop, rfl⟩, hsame.keeps.trans hkeeps⟩⟩
  · obtain ⟨rfl, hclean⟩ := perform_gate_ok hgate
    dsimp only
    rw [perform_bind, perform_get]
    dsimp only
    cases houtput : s₂.output with
    | none => exact ⟨_, _, rfl, .inr ⟨⟨_, rfl⟩, hsame.keeps⟩⟩
    | some path =>
        obtain ⟨answer, s₃, hask, hengine, hjournal, hdraft, hends⟩ :=
          @perform_ask_save systemDirectory toolkit path s₂
        dsimp only
        rw [perform_bind, hask]
        rcases hends with ⟨rfl, hwritten⟩ | ⟨⟨fault, rfl⟩, hfiles⟩
        · obtain ⟨s₄, hdone, hsame'⟩ := perform_saved path s₃
          have hown : s₄.bench.own = s₃.bench.own := congrArg Draft.own hsame'.draft
          have hconfig : s₂.config = s.config := congrArg Draft.config hsame.draft
          have hown₂ : s₂.bench.own = s.bench.own := congrArg Draft.own hsame.draft
          refine ⟨.ok (), s₄, hdone, .inl ⟨rfl, path, ?_, ?_, ?_, ?_⟩⟩
          · rw [← houtput]
            exact (congrArg Draft.output hsame.draft).symm
          · rw [← hsame.engine, hclean]
          · rw [hown, hsame'.files, ← hwritten, hsame.files]
          · rw [hsame'.draft, hdraft, hsame.draft, hconfig, hown₂]
        · have hkept : s₂.bench.Keeps s₃.bench :=
            ⟨hfiles, (congrArg Engine.errors hengine).ge, hjournal⟩
          obtain ⟨hreported, -⟩ := @prepares_report_throw Manifest Unit s₃.bench.files
            (fun _ => True) (fun _ _ => True) (unwritable path fault) (.halted .save) s₃ rfl
            fun _ => trivial
          exact ⟨.error (.halted .save), _, rfl, .inr ⟨⟨_, rfl⟩,
            (hsame.keeps.trans hkept).trans hreported⟩⟩

/-! ## The whole run -/

/-- **What a run to the end has written**, if it does not stop after parsing: nothing, the
documentation alone, or the output last.  Only with the output written does it come to its end. -/
inductive Effect (decoder : Text.Decoder) (systemDirectory : Path) (s : Session Manifest) :
    Except Stop Unit → Session Manifest → Prop
  | nothing {stop : Stop} {s' : Session Manifest} (hkeeps : s.bench.Keeps s'.bench) :
      Effect decoder systemDirectory s (.error stop) s'
  | documentation {stop : Stop} {doc : Path} {s₁ s₂ s' : Session Manifest}
      (hfront : s.bench.Keeps s₁.bench)
      (hopened : IsOpened decoder s.bench.files systemDirectory s.draft s₁.draft)
      (hwritten : DocumentationWritten doc s₁ s₂) (hback : s₂.bench.Keeps s'.bench) :
      Effect decoder systemDirectory s (.error stop) s'
  | output {path : Path} {s₁ s₂ s₃ s' : Session Manifest} (hfront : s.bench.Keeps s₁.bench)
      (hopened : IsOpened decoder s.bench.files systemDirectory s.draft s₁.draft)
      (hdocumented : Documented s₁ s₂) (hback : s₂.bench.Keeps s₃.bench)
      (hcompleted : IsCompleted s₂.bench.files s₂.draft s₃.draft)
      (hwritten : OutputWritten path s₃ s') : Effect decoder systemDirectory s (.ok ()) s'

/-- **Every run to the end that goes on behind parsing** has one of these effects. -/
theorem effect_toPhase_save (systemDirectory : Path) (toolkit : Text.Toolkit)
    {s : Session Manifest}
    (hgoes : s.config.stopsAfterParsing = false) :
    ∃ result s', perform (toPhase (collaborators systemDirectory toolkit) .save) s = (result, s') ∧
      Effect toolkit.decoder systemDirectory s result s' := by
  have hscan : s.draft.config.tokenizeOnly = false := by
    unfold Config.stopsAfterParsing at hgoes
    exact (Bool.or_eq_false_iff.mp hgoes).1
  rw [perform_toPhase_save hgoes, perform_bind]
  obtain ⟨hfront, hopened⟩ := @prepares_beforeDocumentation s.bench.files systemDirectory toolkit
    s.draft s
    rfl fun _ => rfl
  rcases hrun₁ : perform (beforeDocumentation (collaborators systemDirectory toolkit)) s with
    ⟨stop | _, s₁⟩
  · rw [hrun₁] at hfront
    exact ⟨_, _, rfl, .nothing hfront⟩
  rw [hrun₁] at hfront
  replace hopened := fun hzero => hopened _ s₁ hrun₁ hzero hscan
  dsimp only
  obtain ⟨result, s₂, hrun₂, hdocumented⟩ := @perform_documentation systemDirectory toolkit s₁
  -- From here on a run that is ended has written the documentation at most.
  have hstops : ∀ {stop s'}, s₂.bench.Keeps s'.bench →
      Effect toolkit.decoder systemDirectory s (.error stop) s' := by
    intro stop s' hback
    rcases hdocumented with ⟨doc, hwritten⟩ | ⟨hkeeps, -⟩
    · exact .documentation hfront (hopened hwritten.clean) hwritten hback
    · exact .nothing ((hfront.trans hkeeps).trans hback)
  rw [perform_bind, hrun₂]
  cases result with
  | error stop => exact ⟨_, _, rfl, hstops (.refl _)⟩
  | ok _ =>
      obtain ⟨hback, hcompleted⟩ :=
        @prepares_beforeSaving s₂.bench.files systemDirectory toolkit s₂.draft s₂ rfl fun _ => rfl
      dsimp only
      rw [perform_bind]
      rcases hrun₃ : perform (beforeSaving (collaborators systemDirectory toolkit)) s₂ with
        ⟨stop | _, s₃⟩
      · rw [hrun₃] at hback
        exact ⟨_, _, rfl, hstops hback⟩
      rw [hrun₃] at hback
      obtain ⟨result, s', hrun₄, hsaved⟩ := @perform_save systemDirectory toolkit s₃
      refine ⟨result, s', hrun₄, ?_⟩
      rcases hsaved with ⟨rfl, path, hwritten⟩ | ⟨⟨stop, rfl⟩, hkeeps⟩
      · have hclean : s₂.engine.errors = 0 := hback.errors_eq_zero hwritten.clean
        rcases hdocumented with ⟨doc, hdocument⟩ | ⟨hkeeps, -, hskips⟩
        · exact .output hfront (hopened hdocument.clean) (.written hdocument) hback
            (hcompleted _ _ hrun₃ hwritten.clean) hwritten
        · obtain ⟨hnone, hdraft⟩ := hskips rfl hclean
          exact .output hfront (hopened (hkeeps.errors_eq_zero hclean))
            (.skipped hnone hkeeps.files hdraft) hback (hcompleted _ _ hrun₃ hwritten.clean)
            hwritten
      · exact hstops (hback.trans hkeeps)

end Host

end BatchCompiler

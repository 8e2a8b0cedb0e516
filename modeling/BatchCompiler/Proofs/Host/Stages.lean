import BatchCompiler.Pipeline.Run
import BatchCompiler.Proofs.Host.Jobs
import BatchCompiler.Proofs.Pipeline.Covers

/-!
# The host's stages

What every stage of a run with the host collaborators makes of the draft, if no error is counted
behind it.  Whom a stage calls, behind what and to which end is the same for all collaborators, and is
not gone through again.  But what becomes of the data is for those who are called to say, and so it is
said here for the host alone.  Only the documentation and the saving change a file, and these are not
dealt with here.

## Main definitions

* `Host.scanSources` — the tree after scanning source files
* `Host.openedManifest`, `Host.startingAt`, `Host.withNativeResource`, `Host.withIcon` — manifests

## Main statements

* `Host.prepares_parse`, …, `Host.prepares_nativeResources` — one stage each
-/

namespace BatchCompiler.Host

open Stage

variable {files : FileSystem} {systemDirectory : Path} {toolkit : Text.Toolkit}
  {d₀ : Draft Manifest}

/-! ## Sources -/

/-- The tree with a file noted that is handed to the frontend. -/
def noteFile (tree : ProgramTree) (path : Path) : ProgramTree :=
  { tree with files := tree.files ++ [path] }

/-- The tree after scanning one source file, which stays as it is if the file cannot be read. -/
def scanSource (decoder : Text.Decoder) (files : FileSystem) (encoding : Text.Encoding)
    (tree : ProgramTree) (path : Path) : ProgramTree :=
  match readSource decoder files encoding path with
  | .ok text => (scanText path text (noteFile tree path)).1.tree
  | .error _ => tree

/-- **The tree after scanning source files** in order. -/
def scanSources (decoder : Text.Decoder) (files : FileSystem) (encoding : Text.Encoding)
    (tree : ProgramTree) (paths : List Path) : ProgramTree :=
  paths.foldl (scanSource decoder files encoding) tree

theorem prepares_parseFile (path : Path) (text : String) :
    Prepares files (· = d₀) (parseFile (collaborators systemDirectory toolkit) path text) fun _ d =>
      d = { d₀ with tree := (scanText path text (noteFile d₀.tree path)).1.tree } := by
  refine prepares_bind (prepares_log _ _) fun _ => ?_
  have hnote : Prepares files (· = d₀) (modify fun s : Session Manifest =>
      { s with tree := { s.tree with files := s.tree.files ++ [path] } }) fun _ d =>
        d = { d₀ with tree := noteFile d₀.tree path } := by
    refine prepares_modify (fun s => by rfl) ?_
    rintro s rfl
    rfl
  refine prepares_bind hnote fun _ => prepares_get_bind_eq fun s _ => ?_
  refine prepares_bind (Q := fun scanned d => d = { d₀ with tree := noteFile d₀.tree path } ∧
    scanned.1 = (scanText path text s.tree).1.tree)
    (prepares_consult_keeps _ (fun _ _ => ⟨rfl, rfl⟩) fun d engine hd _ => ⟨hd, rfl⟩)
    fun scanned => ?_
  refine prepares_bind (Q := fun _ d => d = { d₀ with tree := (scanText path text s.tree).1.tree })
    (prepares_modify (fun _ => by rfl) ?_) fun _ => ?_
  · rintro s' ⟨hd, hscanned⟩
    have hdraft : ({ s' with tree := scanned.1 } : Session Manifest).draft =
      { s'.draft with tree := scanned.1 } := rfl
    rw [hdraft, hd, hscanned]
  · split
    · exact prepares_error _ _
    · refine prepares_pure ?_
      rintro d rfl hs
      rw [show s.tree = noteFile d₀.tree path from congrArg Draft.tree hs]

theorem prepares_attemptSource (path : Path) :
    Prepares files (· = d₀) (attemptSource (collaborators systemDirectory toolkit) path) fun _ d =>
      d₀.config.tokenizeOnly = false →
        d = { d₀ with tree := scanSource toolkit.decoder files d₀.config.encoding d₀.tree path } := by
  refine prepares_get_bind_eq fun s hs => ?_
  rw [hs]
  unfold scanSource
  split
  · rename_i told hread
    have hread : readSource toolkit.decoder files s.config.encoding path = .error told := hread
    refine (prepares_tell told).post ?_
    rintro _ d rfl rfl -
    rw [show s.draft.config = s.config from rfl, hread]
    rfl
  · rename_i text hread
    have hread : readSource toolkit.decoder files s.config.encoding path = .ok text := hread
    split
    · rename_i htokenize
      have htokens := @prepares_ask_keeps Manifest _ files (· = d₀) (fun _ => (· = d₀)) _
        (.tokens path) ((collaborators systemDirectory toolkit).frontend.tokens path text)
        (fun _ => ⟨rfl, rfl⟩) fun _ h => h
      refine prepares_bind htokens fun kinds => (prepares_tell _).post ?_
      rintro _ d rfl rfl hscan
      exact absurd (htokenize.symm.trans hscan) (by decide)
    · refine (prepares_parseFile path text).post ?_
      rintro _ d rfl rfl -
      rw [show s.draft.config = s.config from rfl, hread]

theorem prepares_attemptSources (paths : List Path) : ∀ d₀ : Draft Manifest,
    Prepares files (· = d₀) (attemptSources (collaborators systemDirectory toolkit) paths) fun _ d =>
      d₀.config.tokenizeOnly = false →
        d = { d₀ with
          tree := scanSources toolkit.decoder files d₀.config.encoding d₀.tree paths } := by
  induction paths with
  | nil => exact fun d₀ => prepares_pure fun d hd _ => hd
  | cons path rest ih =>
      intro d₀
      refine prepares_bind prepares_stopIfFatal fun _ => ?_
      refine prepares_bind (prepares_attemptSource path) fun _ => prepares_of_forall ih ?_
      rintro d₁ _ d hd₁ hd hscan
      obtain rfl := hd₁ hscan
      exact hd hscan

/-- **Parsing** scans the source files into the tree. -/
theorem prepares_parse :
    Prepares files (· = d₀) (parse (collaborators systemDirectory toolkit)) fun _ d =>
      d₀.config.tokenizeOnly = false → d = { d₀ with
        tree := scanSources toolkit.decoder files d₀.config.encoding d₀.tree
          d₀.config.sources.files } := by
  refine prepares_bind (prepares_enter _) fun _ => prepares_get_bind_eq fun s _ => ?_
  refine prepares_bind (prepares_attemptSources _ d₀) fun _ => ?_
  refine prepares_bind (prepares_lap _) fun _ => prepares_gate.post ?_
  rintro _ d hd rfl hscan
  exact hd hscan

/-! ## References and the output -/

/-- **The default references** change the references of the configuration only. -/
theorem prepares_configureDefaults :
    Prepares files (· = d₀) (configureDefaults : Stage Manifest Unit) fun _ d =>
      ∃ references, d = { d₀ with config := { d₀.config with references } } := by
  refine prepares_bind (prepares_enter _) fun _ => prepares_bind (prepares_modify ?_ ?_) fun _ =>
    prepares_gate
  · intro s
    split
    · rfl
    · rfl
  · rintro s rfl
    split
    · exact ⟨_, rfl⟩
    · exact ⟨_, rfl⟩

/-- **Loading references** sets the link path: the directories named, the system's own, the current
one. -/
theorem prepares_loadReferences :
    Prepares files (· = d₀) (loadReferences (collaborators systemDirectory toolkit)) fun _ d =>
      d = { d₀ with
        linkPaths := d₀.config.linkPaths ++ [systemDirectory, files.currentPath] } := by
  refine prepares_bind (prepares_enter _) fun _ => prepares_bind (prepares_lap _) fun _ => ?_
  refine prepares_bind (Q := fun system d => d = d₀ ∧ system = systemDirectory)
    (prepares_ask_keeps _ (fun _ => ⟨rfl, rfl⟩) fun d hd => ⟨hd, rfl⟩) fun system => ?_
  refine Prepares.given (P := (· = d₀)) (prepares_get_bind_eq fun s hs => ?_) fun _ h => h
  refine prepares_bind (prepares_job_keeps (keeps_resolveAll _ _ _)) fun resolver => ?_
  refine prepares_bind (Q := fun _ d => d = { d₀ with linkPaths := resolver.linkPaths } ∧
    resolver.linkPaths = s.config.linkPaths ++ [system, s.bench.files.currentPath])
    (prepares_modify (fun _ => by rfl) ?_) fun _ => ?_
  · rintro s' ⟨rfl, hpaths⟩
    exact ⟨rfl, hpaths⟩
  · refine prepares_bind (prepares_lap _) fun _ => prepares_gate.post ?_
    rintro _ d ⟨rfl, hpaths⟩ rfl rfl
    rw [hpaths, hs]
    rfl

/-- The manifest of an output just opened. -/
def openedManifest (path : Path) (config : Config) : Manifest :=
  { output := path, debugInfo := config.debugInfo, moduleOnly := config.target = .netmodule }

/-- A manifest is started anew, unless it is refused. -/
theorem initManifest_spec (path : Path) (debug : Bool) (own : Manifest) :
    (initManifest path debug ⟨own, files, []⟩).2.files = files ∧
      ((initManifest path debug ⟨own, files, []⟩).1 = .ok () →
        (initManifest path debug ⟨own, files, []⟩).2.own =
          { output := path, debugInfo := debug }) := by
  unfold initManifest
  cases requiredDirectory? path with
  | none => exact ⟨rfl, fun _ => rfl⟩
  | some directory =>
      cases hdirectory : files.isDirectory directory with
      | true =>
          simp only [Act.files, bind, StateT.bind, hdirectory]
          exact ⟨rfl, fun _ => rfl⟩
      | false =>
          simp only [Act.files, bind, StateT.bind, hdirectory]
          exact ⟨rfl, nofun⟩

/-- **The output** is opened under the path asked for, or else under the default one. -/
theorem prepares_outputIdentity :
    Prepares files (· = d₀) (outputIdentity (collaborators systemDirectory toolkit)) fun _ d =>
      ∃ path, d₀.config.destination? = some path ∧
        d = { d₀ with own := openedManifest path d₀.config, output := some path } := by
  refine prepares_bind (prepares_enter _) fun _ => prepares_get_bind_eq fun s _ => ?_
  dsimp only
  split
  · exact prepares_report_throw _ _
  · rename_i path hpath
    refine prepares_bind (prepares_log _ _) fun _ => ?_
    refine prepares_bind (Q := fun answer d => answer = .ok () →
      d = { d₀ with own := { output := path, debugInfo := s.config.debugInfo } })
      (prepares_ask _ (fun own => (initManifest_spec path _ own).1) ?_) fun answer => ?_
    · rintro d rfl hok
      exact congrArg (fun own => { d with own }) ((initManifest_spec path _ d.own).2 hok)
    split
    · exact prepares_report_throw _ _
    · -- What is left sets the path, behind the mark if the output is a module.
      have hset : ∀ own, Prepares files (· = { d₀ with own })
          (modify fun s : Session Manifest => { s with output := some path }) fun _ d =>
            own = openedManifest path s.config → s.draft = d₀ →
              ∃ path, d₀.config.destination? = some path ∧
                d = { d₀ with own := openedManifest path d₀.config, output := some path } := by
        intro own
        refine prepares_modify (fun _ => by rfl) ?_
        rintro s' hs' rfl rfl
        refine ⟨path, hpath, ?_⟩
        show { s'.draft with output := some path } = _
        rw [hs']
        rfl
      refine Prepares.pre (P := (· = { d₀ with
        own := { output := path, debugInfo := s.config.debugInfo } })) ?_ fun d hd => hd rfl
      split
      · rename_i htarget
        refine prepares_bind (prepares_ask_keeps
          (Q := fun supported d => d = _ ∧ supported = true) _ (fun _ => ⟨rfl, rfl⟩)
          fun d hd => ⟨hd, rfl⟩) fun supported => ?_
        refine Prepares.given (P := (· = { d₀ with
          own := { output := path, debugInfo := s.config.debugInfo } })) ?_ fun d hd => hd
        split
        · exact prepares_bind (prepares_report _) fun _ => prepares_throw_bind _
        · refine prepares_bind (prepares_ask (Q := fun _ d => d = { d₀ with
            own := openedManifest path s.config }) _ (fun _ => rfl) ?_) fun _ => (hset _).post ?_
          · rintro d rfl
            unfold openedManifest
            rw [htarget]
            rfl
          · exact fun _ d h _ hs => h rfl hs
      · rename_i htarget
        refine (hset _).post fun _ d h => h ?_
        unfold openedManifest
        rw [decide_eq_false htarget]

/-- **Linking modules** adds the stem of each module to the manifest. -/
theorem prepares_loadModules :
    Prepares files (· = d₀) (loadModules (collaborators systemDirectory toolkit)) fun _ d => ∃ stems,
      d₀.config.modules.map (linkedStem? files d₀.linkPaths) = stems.map some ∧
        d = { d₀ with own := { d₀.own with modules := d₀.own.modules ++ stems } } := by
  refine prepares_bind (prepares_enter _) fun _ => prepares_get_bind_eq fun s _ => ?_
  refine prepares_bind (Q := fun resolver d => resolver.linkPaths = s.resolver.linkPaths ∧
    ∃ stems, s.config.modules.map (linkedStem? files s.resolver.linkPaths) = stems.map some ∧
      d = { d₀ with own := { d₀.own with modules := d₀.own.modules ++ stems } })
    (prepares_job (makes_loadModules _ _) ?_) fun resolver => ?_
  · rintro d resolver own rfl ⟨hpaths, stems, hstems, rfl⟩
    exact ⟨hpaths, stems, hstems, rfl⟩
  · refine prepares_modify (fun _ => by rfl) ?_
    rintro s' ⟨hpaths, stems, hstems, hd⟩ rfl
    refine ⟨stems, hstems, ?_⟩
    show { s'.draft with linkPaths := resolver.linkPaths } = _
    rw [hd, hpaths]
    rfl

/-! ## The tree -/

/-- The core types are always found. -/
theorem prepares_coreTypes :
    Prepares files (· = d₀) (coreTypes (collaborators systemDirectory toolkit))
      fun _ d => d = d₀ := by
  refine prepares_bind (prepares_enter _) fun _ => prepares_get_bind_eq fun s _ => ?_
  refine prepares_bind (prepares_consult_keeps (Q := fun _ => (· = d₀)) _ (fun _ _ => ⟨rfl, rfl⟩)
    fun _ _ hd _ => hd) fun bound => ?_
  split
  · exact prepares_throw _
  · exact prepares_pure fun _ hd _ => hd

/-- Work on the tree that leaves the manifest. -/
theorem prepares_rework {call : Call}
    {act : ProgramTree → Engine → Act Manifest (ProgramTree × List Report)}
    (work : ProgramTree → ProgramTree)
    (hact : ∀ tree engine own, (act tree engine ⟨own, files, []⟩).2.own = own ∧
      (act tree engine ⟨own, files, []⟩).2.files = files)
    (hwork : ∀ tree engine own, (act tree engine ⟨own, files, []⟩).1.1 = work tree) :
    Prepares files (· = d₀) (rework call act) fun _ d => d = { d₀ with tree := work d₀.tree } := by
  refine prepares_get_bind_eq fun s _ => ?_
  refine prepares_bind (prepares_consult_keeps (Q := fun tree d => d = d₀ ∧ tree = work s.tree) _
    (hact s.tree) fun d engine hd _ => ⟨hd, hwork _ _ _⟩) fun tree => ?_
  refine prepares_modify (fun _ => by rfl) ?_
  rintro s' ⟨hd, rfl⟩ rfl
  show { s'.draft with tree := work s.tree } = _
  rw [hd]
  rfl

/-- **Resolving the tree** puts its declarations in order. -/
theorem prepares_resolveTree :
    Prepares files (· = d₀) (resolveTree (collaborators systemDirectory toolkit)) fun _ d =>
      d = { d₀ with tree := d₀.tree.sortDeclarations } := by
  refine prepares_bind (prepares_enter _) fun _ => prepares_bind (prepares_lap _) fun _ => ?_
  refine prepares_bind (prepares_rework id (fun _ _ _ => ⟨rfl, rfl⟩) fun _ _ _ => rfl) fun _ => ?_
  refine prepares_bind prepares_gate fun _ => prepares_bind (prepares_lap _) fun _ => ?_
  refine prepares_get_bind_eq fun s _ => ?_
  refine prepares_bind (prepares_rework id (fun _ _ _ => ⟨rfl, rfl⟩) fun _ _ _ => rfl) fun _ => ?_
  refine prepares_bind prepares_stopIfFatal fun _ => ?_
  refine prepares_bind (prepares_rework ProgramTree.sortDeclarations (fun _ _ _ => ⟨rfl, rfl⟩)
    fun _ _ _ => rfl) fun _ => prepares_bind (prepares_lap _) fun _ => ?_
  exact prepares_stopIfFatal.post fun _ _ hd _ => hd

/-- A review without reports. -/
theorem prepares_review {call : Call} {act : Engine → Act Manifest (List Report)}
    (hact : ∀ engine own, (act engine ⟨own, files, []⟩).2.own = own ∧
      (act engine ⟨own, files, []⟩).2.files = files) :
    Prepares files (· = d₀) (review call act) fun _ d => d = d₀ :=
  prepares_consult_keeps _ hact fun _ _ hd _ => hd

theorem prepares_verifyUsing :
    Prepares files (· = d₀) (verifyUsing (collaborators systemDirectory toolkit))
      fun _ d => d = d₀ := by
  refine prepares_bind (prepares_enter _) fun _ => prepares_get_bind_eq fun s _ => ?_
  refine prepares_bind (prepares_review fun _ _ => ⟨rfl, rfl⟩) fun _ => ?_
  exact prepares_gate.post fun _ _ hd _ => hd

theorem prepares_assemblyAttributes :
    Prepares files (· = d₀) (assemblyAttributes (collaborators systemDirectory toolkit)) fun _ d =>
      d = d₀ := by
  refine prepares_bind (prepares_enter _) fun _ => prepares_get_bind_eq fun s _ => ?_
  refine prepares_bind (prepares_review fun _ _ => ⟨rfl, rfl⟩) fun _ => ?_
  have hgate : Prepares files (· = d₀) (gate : Stage Manifest Unit) fun _ d =>
      s.draft = d₀ → d = d₀ := prepares_gate.post fun _ _ hd _ => hd
  dsimp only
  split
  · refine prepares_bind (prepares_ask_keeps (Q := fun _ => (· = d₀)) _ (fun _ => ⟨rfl, rfl⟩)
      fun _ hd => hd) fun compliant => ?_
    split
    · exact prepares_bind (prepares_review fun _ _ => ⟨rfl, rfl⟩) fun _ => hgate
    · exact hgate
  · exact hgate

/-! ## The entry point -/

/-- **Emitting code** chooses the entry point: none for a library or a module, and for a program the
only candidate that the main class allows, if there is one. -/
theorem prepares_emit :
    Prepares files (· = d₀) (emit (collaborators systemDirectory toolkit)) fun _ d =>
      d = { d₀ with
        entryPoint := (selectEntryPoint d₀.tree (emitContext d₀.config)).1 } := by
  refine prepares_bind (prepares_enter _) fun _ => prepares_bind (prepares_lap _) fun _ => ?_
  refine prepares_get_bind_eq fun s _ => ?_
  refine prepares_bind (prepares_consult_keeps (Q := fun found d => d = d₀ ∧
    found = (selectEntryPoint s.tree (emitContext s.config)).1) _ (fun _ _ => ⟨rfl, rfl⟩)
    fun d engine hd _ => ⟨hd, rfl⟩) fun found => ?_
  refine prepares_bind (prepares_modify (Q := fun _ d => d = { d₀ with
    entryPoint := (selectEntryPoint s.tree (emitContext s.config)).1 }) (fun _ => by rfl) ?_)
    fun _ => prepares_bind (prepares_lap _) fun _ => prepares_gate.post ?_
  · rintro s' ⟨hd, rfl⟩
    show { s'.draft with entryPoint := (selectEntryPoint s.tree (emitContext s.config)).1 } = _
    rw [hd]
  · rintro _ d rfl rfl
    rfl

theorem prepares_closeTypes :
    Prepares files (· = d₀) (closeTypes (collaborators systemDirectory toolkit))
      fun _ d => d = d₀ := by
  refine prepares_bind (prepares_enter _) fun _ => prepares_bind (prepares_lap _) fun _ => ?_
  refine prepares_get_bind_eq fun s _ => ?_
  refine prepares_bind (prepares_ask_keeps (Q := fun tree d => d = d₀ ∧ tree = s.tree) _
    (fun _ => ⟨rfl, rfl⟩) fun d hd => ⟨hd, rfl⟩) fun tree => prepares_modify (fun _ => by rfl) ?_
  rintro s' ⟨hd, rfl⟩ rfl
  show { s'.draft with tree := s.tree } = _
  rw [hd]
  rfl

/-- The manifest of a program that starts at an entry point. -/
def startingAt (m : Manifest) (entry : EntryPoint) (subsystem : Subsystem) : Manifest :=
  { m with entryPoint := some ⟨entry.declaringType, entry.method, subsystem⟩ }

/-- **The entry point** found goes into the manifest of a program, which must have one. -/
theorem prepares_entryPoint :
    Prepares files (· = d₀) (entryPoint (collaborators systemDirectory toolkit)) fun _ d =>
      ∃ start, (d₀.config.target.needsEntryPoint = true → ∃ entry, d₀.entryPoint = some entry ∧
          start = startingAt d₀.own entry d₀.config.target.subsystem) ∧
        (d₀.config.target.needsEntryPoint = false → start = d₀.own) ∧
        d = { d₀ with own := start } := by
  refine prepares_bind (prepares_enter _) fun _ => prepares_get_bind_eq fun s _ => ?_
  split
  · rename_i htarget
    have hnone : s.config.target.needsEntryPoint = false := by simpa using htarget
    split
    · exact prepares_error _ _
    · refine prepares_pure ?_
      rintro d rfl rfl
      exact ⟨_, fun h => absurd (hnone.symm.trans h) (by decide), fun _ => rfl, rfl⟩
  · rename_i htarget
    have hneeds : s.config.target.needsEntryPoint = true := by simpa using htarget
    split
    · rename_i entry hentry
      refine prepares_bind (prepares_log _ _) fun _ => prepares_ask _ (fun _ => rfl) ?_
      rintro d rfl rfl
      exact ⟨_, fun _ => ⟨entry, hentry, rfl⟩,
        fun h => absurd (hneeds.symm.trans h) (by decide), rfl⟩
    · dsimp only
      split
      · exact prepares_report_throw _ _
      · exact prepares_throw _

/-! ## Resources -/

/-- **Emitting resources** adds one record for each resource of the table, the first time. -/
theorem prepares_emitResources :
    Prepares files (· = d₀) (emitResources (collaborators systemDirectory toolkit)) fun _ d =>
      ∃ records resources, (d₀.config.resources.emitted = false →
          List.Forall₂ (Records files) d₀.config.resources.toList records) ∧
        d = { d₀ with
          own := { d₀.own with resources := d₀.own.resources ++ records }
          config := { d₀.config with resources } } := by
  refine prepares_bind (prepares_enter _) fun _ => prepares_get_bind_eq fun s _ => ?_
  dsimp only
  split
  · rename_i hempty
    have hnone : s.config.resources.toList = [] :=
      List.map_eq_nil_iff.mpr (List.isEmpty_iff.mp hempty)
    refine prepares_pure ?_
    rintro d rfl rfl
    exact ⟨[], s.config.resources, fun _ => hnone ▸ .nil, by simp; rfl⟩
  · split
    · exact prepares_report_throw _ _
    · refine prepares_bind (prepares_job (Q := fun _ d => ∃ records,
        (s.config.resources.emitted = false →
          List.Forall₂ (Records files) s.config.resources.toList records) ∧
        d = { d₀ with own := { d₀.own with resources := d₀.own.resources ++ records } })
        (makes_emitAll _) ?_) fun answer => ?_
      · rintro d answer own rfl ⟨records, hrecords, rfl⟩
        exact ⟨records, hrecords, rfl⟩
      · refine prepares_bind (prepares_modify (Q := fun _ d => ∃ records resources,
          (s.config.resources.emitted = false →
            List.Forall₂ (Records files) s.config.resources.toList records) ∧
          d = { d₀ with
            own := { d₀.own with resources := d₀.own.resources ++ records }
            config := { d₀.config with resources } })
          (fun _ => by rfl) ?_) fun _ => (prepares_log _ _).post ?_
        · rintro s' ⟨records, hrecords, hd⟩
          refine ⟨records, answer.2, hrecords, ?_⟩
          show { s'.draft with config := { s'.draft.config with resources := answer.2 } } = _
          rw [hd]
        · rintro _ d hmade rfl
          exact hmade

/-- A file that must be there is recorded, or nothing is done. -/
theorem recordFile_spec (path : Path) (record : Manifest → Manifest) (own : Manifest) :
    (recordFile path record ⟨own, files, []⟩).2.files = files ∧
      ((recordFile path record ⟨own, files, []⟩).1 = .ok () →
        (recordFile path record ⟨own, files, []⟩).2.own = record own) := by
  unfold recordFile
  cases hlookup : files.lookup path with
  | error fault =>
      simp only [Act.files, bind, StateT.bind, hlookup]
      exact ⟨rfl, nofun⟩
  | ok entry =>
      simp only [Act.files, bind, StateT.bind, hlookup]
      exact ⟨rfl, fun _ => rfl⟩

theorem prepares_unreadableResource (what : String) (path : Path) (fault : Fault)
    {P : Draft Manifest → Prop} {Q : Unit → Draft Manifest → Prop} :
    Prepares files P (unreadableResource what path fault) Q :=
  prepares_bind (prepares_log _ _) fun _ =>
    prepares_tell_of_error (List.mem_singleton_self _) rfl

/-- **A file of the output** is recorded when it is there. -/
theorem prepares_recordFile {capability : Capability} {call : Call} (what : String) (path : Path)
    (record : Manifest → Manifest) (r : Report) :
    Prepares files (· = d₀) (do
      if ← ask (.supports capability) (manifestWriter.supports capability) then
        match ← ask call (recordFile path record) with
        | .ok () => pure ()
        | .error fault => unreadableResource what path fault
      else report r) fun _ d => d = { d₀ with own := record d₀.own } := by
  refine prepares_bind (prepares_ask_keeps (Q := fun supported d => d = d₀ ∧ supported = true) _
    (fun _ => ⟨rfl, rfl⟩) fun d hd => ⟨hd, rfl⟩) fun supported => ?_
  refine Prepares.given (P := (· = d₀)) ?_ fun _ h => h
  split
  · refine prepares_bind (prepares_ask (Q := fun answer d => answer = .ok () →
      d = { d₀ with own := record d₀.own }) _ (fun own => (recordFile_spec path record own).1) ?_)
      fun answer => ?_
    · rintro d rfl hok
      exact congrArg (fun own => { d with own }) ((recordFile_spec path record d.own).2 hok)
    · split
      · exact prepares_pure fun _ hd _ => hd rfl
      · exact prepares_unreadableResource what path _
  · rename_i hsupported
    exact (prepares_report r).post fun _ _ _ h => absurd h hsupported

/-- The manifest with a native resource, or with the version information that takes its place. -/
def withNativeResource (m : Manifest) : Option Path → Manifest
  | none => { m with versionInfo := true }
  | some path => { m with nativeResource := some path }

/-- The manifest with an icon, if there is one. -/
def withIcon (m : Manifest) : Option Path → Manifest
  | none => m
  | some path => { m with icon := some path }

theorem prepares_defineNativeResource (path? : Option Path) :
    Prepares files (· = d₀) (defineNativeResource (collaborators systemDirectory toolkit) path?)
      fun _ d => d = { d₀ with own := withNativeResource d₀.own path? } := by
  cases path? with
  | none =>
      refine prepares_ask _ (fun _ => rfl) ?_
      rintro d rfl
      rfl
  | some path => exact prepares_recordFile "native resource" path _ _

theorem prepares_defineIcon (path? : Option Path) :
    Prepares files (· = d₀) (defineIcon (collaborators systemDirectory toolkit) path?)
      fun _ d => d = { d₀ with own := withIcon d₀.own path? } := by
  cases path? with
  | none => exact prepares_pure fun _ hd => hd
  | some path => exact prepares_recordFile "icon" path _ _

/-- **Native resources** as the configuration names them. -/
theorem prepares_nativeResources :
    Prepares files (· = d₀) (nativeResources (collaborators systemDirectory toolkit)) fun _ d =>
      d = { d₀ with
        own := withIcon (withNativeResource d₀.own d₀.config.nativeResource) d₀.config.icon } := by
  refine prepares_bind (prepares_enter _) fun _ => prepares_get_bind_eq fun s _ => ?_
  refine prepares_bind (prepares_defineNativeResource _) fun _ => ?_
  refine (prepares_defineIcon _).post ?_
  rintro _ d rfl rfl
  rfl

end BatchCompiler.Host

import Mathlib
import BatchCompiler.Proofs.Host.Run
import BatchCompiler.Proofs.Pipeline.Course

/-!
# The files of a run

A run with the host collaborators changes the file of the documentation and the file of the output,
and nothing else.  The output is the last thing it writes, so a run that is ended has not touched
it, and one that comes to its end has left the manifest there.

## Main definitions

* `FileSystem.ChangedAt` — what differs between two file systems
* `FileSystem.IsPlaceOf` — where the file of a path that may be missing is written
* `Host.treeOf` — the tree of a run that goes on behind parsing

## Main statements

* `Host.run_files` — the files of a run to the end
-/

namespace BatchCompiler

namespace FileSystem

/-- **A location is changed**: it does not hold in one file system what it holds in the other. -/
def ChangedAt (fs fs' : FileSystem) (at_ : Location) : Prop := fs'.entry? at_ ≠ fs.entry? at_

/-- **The place of a path**, if there is one: where a file written under it ends up. -/
def IsPlaceOf (fs : FileSystem) (path? : Option Path) (at_ : Location) : Prop :=
  ∃ path, path? = some path ∧ fs.destination path = .ok at_

variable {fs fs' : FileSystem} {p : Path} {bytes : List UInt8} {at_ : Location}

/-- What is changed from one file system to the next but one is changed on the way. -/
theorem ChangedAt.or (between : FileSystem) (h : fs.ChangedAt fs' at_) :
    fs.ChangedAt between at_ ∨ between.ChangedAt fs' at_ := by
  by_cases hfirst : between.entry? at_ = fs.entry? at_
  · exact .inr fun hsecond => h (hsecond.trans hfirst)
  · exact .inl hfirst

/-- **A write changes its place at most.** -/
theorem ChangedAt.destination (hchanged : fs.ChangedAt fs' at_) (h : fs.write p bytes = .ok fs') :
    fs.destination p = .ok at_ :=
  Decidable.not_not.mp fun hother => hchanged (entry?_write h hother)

end FileSystem

namespace Host

open Stage FileSystem

variable {systemDirectory : Path} {decoder : Text.Decoder} {toolkit : Text.Toolkit}
  {s s' s₁ s₂ : Session Manifest} {files : FileSystem} {doc path : Path} {at_ : Location}

/-! ## A run that is ended -/

theorem IsOpened.documentation {d₀ d : Draft Manifest}
    (h : IsOpened decoder files systemDirectory d₀ d) :
    d.config.documentation = d₀.config.documentation := by
  obtain ⟨path, stems, references, linkPaths, -, -, -, rfl⟩ := h
  rfl

/-- **A run that has written the documentation** has changed no more than its file, and has asked
for it while no error was counted. -/
theorem DocumentationWritten.changed (hfront : s.bench.Keeps s₁.bench)
    (hopened : IsOpened decoder s.bench.files systemDirectory s.draft s₁.draft)
    (h : DocumentationWritten doc s₁ s₂) (hback : s₂.bench.Keeps s'.bench)
    (hchanged : s.bench.files.ChangedAt s'.bench.files at_) :
    s.config.documentation = some doc ∧ s.bench.files.destination doc = .ok at_ ∧
      ∀ made, s'.bench.journal = s.bench.journal ++ made →
        (⟨.exportDocs doc, ⟨0, true⟩⟩ : JournalEntry) ∈ made := by
  refine ⟨?_, ?_, fun made hmade => ?_⟩
  · rw [← h.asked]
    exact hopened.documentation.symm
  · rw [hback.files] at hchanged
    rw [← hfront.files] at hchanged ⊢
    exact hchanged.destination h.written
  · obtain ⟨ahead, hahead⟩ := hfront.journal
    obtain ⟨behind, hbehind⟩ := hback.journal
    rw [← hbehind, h.journal, ← hahead, List.append_assoc, List.append_assoc] at hmade
    rw [← List.append_cancel_left hmade]
    simp

/-- **A run that is ended** has changed the file of the documentation at most. -/
theorem Effect.changed_of_error {stop : Stop} (h : Effect decoder systemDirectory s (.error stop) s')
    (hchanged : s.bench.files.ChangedAt s'.bench.files at_) :
    ∃ doc, s.config.documentation = some doc ∧ s.bench.files.destination doc = .ok at_ ∧
      ∀ made, s'.bench.journal = s.bench.journal ++ made →
        (⟨.exportDocs doc, ⟨0, true⟩⟩ : JournalEntry) ∈ made := by
  cases h with
  | nothing hkeeps =>
      rw [hkeeps.files] at hchanged
      exact absurd rfl hchanged
  | documentation hfront hopened hwritten hback =>
      exact ⟨_, hwritten.changed hfront hopened hback hchanged⟩

theorem Effect.current_of_error {stop : Stop}
    (h : Effect decoder systemDirectory s (.error stop) s') :
    s'.bench.files.current = s.bench.files.current := by
  cases h with
  | nothing hkeeps => rw [hkeeps.files]
  | documentation hfront hopened hwritten hback =>
      rw [hback.files, current_write hwritten.written, hfront.files]

/-! ## A run that comes to its end -/

/-- **The tree of a run** that goes on behind parsing: the sources, with their declarations in
order. -/
def treeOf (decoder : Text.Decoder) (s : Session Manifest) : ProgramTree :=
  (scanSources decoder s.bench.files s.config.encoding s.tree
    s.config.sources.files).sortDeclarations

/-- **The two writes** of a run that comes to its end, the first of which may not be asked for. -/
structure WritesBoth (decoder : Text.Decoder) (s s' : Session Manifest) (path : Path)
    (between : FileSystem) : Prop where
  destination : s.config.destination? = some path
  output : s'.output = some path
  documentation : ∀ doc, s.config.documentation = some doc →
    s.bench.files.write doc (documentationBytes (treeOf decoder s)) = .ok between
  skipped : s.config.documentation = none → between = s.bench.files
  manifest : between.write path (Text.Utf8.encode s'.bench.own.text) = .ok s'.bench.files

theorem IsOpened.tree_eq (h : IsOpened decoder s.bench.files systemDirectory s.draft s₁.draft) :
    s₁.tree = treeOf decoder s := by
  obtain ⟨path, stems, references, linkPaths, -, -, -, hdraft⟩ := h
  exact congrArg Draft.tree hdraft

theorem Effect.writesBoth (h : Effect decoder systemDirectory s (.ok ()) s') :
    ∃ path between, WritesBoth decoder s s' path between := by
  cases h with
  | @output path s₁ s₂ s₃ _ hfront hopened hdocumented hback hcompleted hwritten =>
      have hasked := hopened.documentation
      have htree := hopened.tree_eq
      obtain ⟨path', stems, references, linkPaths, hpath, -, -, hdraft₁⟩ := hopened
      obtain ⟨start, records, resources, found, -, -, -, -, hdraft₃⟩ := hcompleted
      have houtput : s₃.output = some path' := by
        have h₃ : s₃.output = s₂.output := congrArg Draft.output hdraft₃
        have h₂ : s₂.output = s₁.output := congrArg Draft.output hdocumented.draft
        have h₁ : s₁.output = some path' := congrArg Draft.output hdraft₁
        rw [h₃, h₂, h₁]
      obtain rfl : path = path' := Option.some.inj (hwritten.output.symm.trans houtput)
      refine ⟨path, s₂.bench.files, hpath, ?_, fun doc hdoc => ?_, fun hnone => ?_, ?_⟩
      · exact (congrArg Draft.output hwritten.draft).trans houtput
      · rcases hdocumented with ⟨hdocument⟩ | ⟨hnone, -, -⟩
        · obtain rfl := Option.some.inj (hdocument.asked.symm.trans (hasked.trans hdoc))
          rw [← htree, ← hfront.files]
          exact hdocument.written
        · exact absurd (hnone.symm.trans (hasked.trans hdoc)) nofun
      · rcases hdocumented with ⟨hdocument⟩ | ⟨-, hfiles, -⟩
        · exact absurd (hnone.symm.trans (hasked.symm.trans hdocument.asked)) nofun
        · exact hfiles.trans hfront.files
      · rw [← hback.files]
        exact hwritten.written

namespace WritesBoth

variable {between : FileSystem}

theorem changed (h : WritesBoth decoder s s' path between)
    (hchanged : s.bench.files.ChangedAt s'.bench.files at_) :
    s.bench.files.IsPlaceOf s.config.documentation at_ ∨
      s.bench.files.IsPlaceOf s.config.destination? at_ := by
  cases hdoc : s.config.documentation with
  | none =>
      rw [← h.skipped hdoc] at hchanged ⊢
      exact .inr ⟨path, h.destination, hchanged.destination h.manifest⟩
  | some doc =>
      have hdocument := h.documentation doc hdoc
      rcases hchanged.or between with hfirst | hsecond
      · exact .inl ⟨doc, rfl, hfirst.destination hdocument⟩
      · refine .inr ⟨path, h.destination, ?_⟩
        exact (destination_write_iff hdocument).mp (hsecond.destination h.manifest)

/-- **The documentation is still there** once the output has been written, if that is another
file. -/
theorem read_documentation (h : WritesBoth decoder s s' path between)
    (hdoc : s.config.documentation = some doc)
    (hother : s.bench.files.destination doc ≠ s.bench.files.destination path) :
    s'.bench.files.read doc = .ok (documentationBytes (treeOf decoder s)) := by
  have hdocument := h.documentation doc hdoc
  refine read_write_of_ne h.manifest (read_write hdocument) fun at_ hlocate hplace => hother ?_
  rw [locate_write hdocument] at hlocate
  rw [hlocate, (destination_write_iff hdocument).mp hplace]

theorem current (h : WritesBoth decoder s s' path between) :
    s'.bench.files.current = s.bench.files.current := by
  rw [current_write h.manifest]
  cases hdoc : s.config.documentation with
  | none => rw [h.skipped hdoc]
  | some doc => exact current_write (h.documentation doc hdoc)

end WritesBoth

/-! ## Every run -/

/-- **The files of a run to the end**, by its result and the calls it has made: what is changed, and
what is written in the end. -/
structure RunFiles (decoder : Text.Decoder) (s : Session Manifest)
    (result : Except Stop RunOutcome) (s' : Session Manifest) (made : List JournalEntry) : Prop where
  current : s'.bench.files.current = s.bench.files.current
  /-- Nothing is changed but the files of the documentation and of the output. -/
  changed : ∀ at_, s.bench.files.ChangedAt s'.bench.files at_ →
    s.bench.files.IsPlaceOf s.config.documentation at_ ∨
      s.bench.files.IsPlaceOf s.config.destination? at_
  /-- Nothing is changed by a run that is ended but the file of the documentation, which the
  exporter has been asked for while no error was counted. -/
  changed_of_error : ∀ stop, result = .error stop →
    ∀ at_, s.bench.files.ChangedAt s'.bench.files at_ →
      ∃ doc, s.config.documentation = some doc ∧ s.bench.files.destination doc = .ok at_ ∧
        (⟨.exportDocs doc, ⟨0, true⟩⟩ : JournalEntry) ∈ made
  unchanged : s.config.stopsAfterParsing = true → s'.bench.files = s.bench.files
  /-- The manifest is in the output, and the documentation in its own file. -/
  written : ∀ outcome, result = .ok outcome → s.config.stopsAfterParsing = false →
    ∃ path, s.config.destination? = some path ∧ outcome.output = some path ∧
      s'.bench.files.read path = .ok (Text.Utf8.encode s'.bench.own.text) ∧
      ∀ doc, s.config.documentation = some doc →
        s.bench.files.destination doc ≠ s.bench.files.destination path →
        s'.bench.files.read doc = .ok (documentationBytes (treeOf decoder s))

variable {outcome : Except Stop RunOutcome} {made : List JournalEntry}

/-- A run that leaves the files and comes to no end behind parsing. -/
theorem RunFiles.of_files_eq (hfiles : s'.bench.files = s.bench.files)
    (hends : (∃ stop, outcome = .error stop) ∨ s.config.stopsAfterParsing = true) :
    RunFiles decoder s outcome s' made where
  current := by rw [hfiles]
  changed at_ hchanged := absurd (by rw [hfiles]) hchanged
  changed_of_error stop _ at_ hchanged := absurd (by rw [hfiles]) hchanged
  unchanged _ := hfiles
  written outcome' hok hgoes := by
    rcases hends with ⟨stop, rfl⟩ | hstops
    · cases hok
    · exact absurd (hstops.symm.trans hgoes) (by decide)

/-- A run that goes on behind parsing. -/
theorem Effect.runFiles {result : Except Stop Unit}
    (h : Effect decoder systemDirectory { s with finished := true } result s')
    (hgoes : s.config.stopsAfterParsing = false)
    (hmade : s'.bench.journal = s.bench.journal ++ made) :
    RunFiles decoder s (result.map fun _ => s'.outcome) s' made := by
  have hstops : s.config.stopsAfterParsing ≠ true := by simp [hgoes]
  cases result with
  | error stop =>
      refine ⟨h.current_of_error, fun at_ hchanged => ?_, fun stop' _ at_ hchanged => ?_,
        fun hstop => absurd hstop hstops, nofun⟩
      · obtain ⟨doc, hdoc, hplace, -⟩ := h.changed_of_error hchanged
        exact .inl ⟨doc, hdoc, hplace⟩
      · obtain ⟨doc, hdoc, hplace, hasked⟩ := h.changed_of_error hchanged
        exact ⟨doc, hdoc, hplace, hasked made hmade⟩
  | ok _ =>
      obtain ⟨path, between, hboth⟩ := h.writesBoth
      refine ⟨hboth.current, fun at_ => hboth.changed, nofun, fun hstop => absurd hstop hstops, ?_⟩
      rintro _ ⟨⟩ -
      exact ⟨path, hboth.destination, hboth.output, read_write hboth.manifest,
        fun doc => hboth.read_documentation⟩

/-- **What a run with the host does to files.**

A run to the end changes nothing but the file of the documentation and the file of the output.  The
exporter is asked for the documentation only while no error is counted.  A run that is ended has
left the output alone, unless that is the file of the documentation, and has changed the latter only
when the exporter was asked for it.  A run that stops after parsing changes no file.  Any other run
that comes to its end has left the text of the manifest in the output, and the documentation of the
tree in its file, if one is asked for and is not the output. -/
theorem run_files (systemDirectory : Path) (toolkit : Text.Toolkit) (s : Session Manifest) :
    ∃ result s' made, s.run (collaborators systemDirectory toolkit) .save = (result, s') ∧
      s'.bench.journal = s.bench.journal ++ made ∧
      (∀ e ∈ made, ∀ doc, e.call = .exportDocs doc → e.errors = 0) ∧
      RunFiles toolkit.decoder s result s' made := by
  obtain ⟨made, hmade⟩ := Session.run_advances (collaborators systemDirectory toolkit) .save s
  refine ⟨(s.run (collaborators systemDirectory toolkit) .save).1,
    (s.run (collaborators systemDirectory toolkit) .save).2, made, rfl, hmade.journal,
    fun e mem doc hcall => hmade.gated e mem ?_, ?_⟩
  · show e.call.station.needsNoError = true
    rw [hcall]
    rfl
  cases hready : s.finished with
  | true =>
      unfold Session.run
      rw [hready]
      exact .of_files_eq rfl (.inl ⟨_, rfl⟩)
  | false =>
      cases hgoes : s.config.stopsAfterParsing with
      | true =>
          refine .of_files_eq ?_ (.inr hgoes)
          have hparse := perform_toPhase_save_of_stops (c := collaborators systemDirectory toolkit)
            (s := { s with finished := true }) hgoes
          rw [Session.run_snd_of_ready hready, hparse]
          exact (prepares_parse { s with finished := true } rfl fun _ => rfl).1.files
      | false =>
          obtain ⟨result, s', hrun, heffect⟩ :=
            @effect_toPhase_save systemDirectory toolkit { s with finished := true } hgoes
          have hjournal := hmade.journal
          rw [Session.run_of_ready hready, hrun] at hjournal ⊢
          cases result with
          | error stop => exact heffect.runFiles hgoes hjournal
          | ok _ => exact heffect.runFiles hgoes hjournal

/-- **The host with what it writes left open**: the bytes of a manifest, and of a documentation. -/
def collaboratorsWriting (systemDirectory : Path) (toolkit : Text.Toolkit)
    (manifest : Manifest → List UInt8)
    (xml : ProgramTree → List UInt8) : Collaborators Manifest :=
  { collaborators systemDirectory toolkit with
    output := { manifestWriter with
      save := fun path debug => do
        Act.change ({ · with debugInfo := debug })
        match ← Act.write path (manifest (← Act.own)) with
        | .error fault => return .error fault
        | .ok () =>
            Act.log .debug .manifest ("manifest written to " ++ path.text)
            return .ok () }
    docs := { export_ := fun path tree _ => do
      match ← Act.write path (xml tree) with
      | .ok () => return (true, [])
      | .error fault => return (false, [.error 16 ("Could not write to file `" ++ path.text ++
          "', cause: " ++ fault.message)]) } }

theorem collaborators_eq_writing (systemDirectory : Path) (toolkit : Text.Toolkit) :
    collaborators systemDirectory toolkit = collaboratorsWriting systemDirectory toolkit
      (fun m => Text.Utf8.encode m.text) documentationBytes := rfl

/-- A program with its documentation and a resource, whose entry point is known already. -/
def furnished : Session Manifest :=
  { Session.start
      { target := .exe, output := some ⟨"a"⟩, standardLibrary := false, defaultReferences := false
        documentation := some ⟨"d"⟩
        resources := { entries := ⟨[("r", ⟨"r", ⟨"r"⟩, .embedded, .isPrivate⟩)]⟩ } }
      { own := {}, files := ⟨[], ⟨[(["r"], .file [1])]⟩⟩ } with
    tree := { candidates := [⟨"A", "M"⟩] } }

set_option maxRecDepth 4000 in
/-- Whatever is written, the program is saved. -/
theorem run_furnished (manifest : Manifest → List UInt8) (xml : ProgramTree → List UInt8) :
    (furnished.run (collaboratorsWriting ⟨""⟩ .bundled manifest xml) .save).1 =
      .ok ⟨.save, some ⟨"a"⟩, some ⟨"A", "M"⟩⟩ := by
  cbv

/-- With the host's own texts, too. -/
theorem exists_run_furnished : ∃ s', furnished.run (collaborators ⟨""⟩) .save =
    (.ok ⟨.save, some ⟨"a"⟩, some ⟨"A", "M"⟩⟩, s') := by
  have hok := run_furnished (fun m => Text.Utf8.encode m.text) documentationBytes
  rw [← collaborators_eq_writing] at hok
  rcases hrun : furnished.run (collaborators ⟨""⟩) .save with ⟨result, s'⟩
  rw [hrun] at hok
  obtain rfl : result = _ := hok
  exact ⟨s', rfl⟩

theorem destination_furnished : furnished.bench.files.destination ⟨"d"⟩ = .ok ["d"] := by cbv

/-- The manifest is in `a` and the documentation in `d`. -/
theorem run_files_furnished : ∃ outcome s',
    furnished.run (collaborators ⟨""⟩) .save = (.ok outcome, s') ∧
      s'.bench.files.read ⟨"a"⟩ = .ok (Text.Utf8.encode s'.bench.own.text) ∧
      s'.bench.files.read ⟨"d"⟩ = .ok (documentationBytes (treeOf .bundled furnished)) := by
  have hother : furnished.bench.files.destination ⟨"d"⟩ ≠
      furnished.bench.files.destination ⟨"a"⟩ := by
    have houtput : furnished.bench.files.destination ⟨"a"⟩ = .ok ["a"] := by cbv
    rw [destination_furnished, houtput]
    decide
  obtain ⟨s', hrun⟩ := exists_run_furnished
  obtain ⟨result, s'', made, hrun', -, -, hfiles⟩ := run_files ⟨""⟩ .bundled furnished
  obtain ⟨rfl, rfl⟩ := Prod.mk.inj (hrun.symm.trans hrun')
  obtain ⟨path, hpath, -, hread, hdoc⟩ := hfiles.written _ rfl rfl
  obtain rfl : (⟨"a"⟩ : Path) = path := Option.some.inj hpath
  exact ⟨_, s', hrun, hread, hdoc ⟨"d"⟩ rfl hother⟩

end Host
end BatchCompiler

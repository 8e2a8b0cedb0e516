import BatchCompiler.Proofs.CommandLine.Suppression
import BatchCompiler.Proofs.Host.Files
import BatchCompiler.Proofs.Invocation.Expectation
import BatchCompiler.Proofs.Pipeline.AlikeRuns
import BatchCompiler.Proofs.ResponseFile.Behind

/-!
# Invocations that drop warnings

To drop the warnings of a code takes them out of the record, and changes nothing else: the arguments
behind are read alike, a session that is started alike runs alike, and the status is settled by errors
alone.  All of this presupposes that warnings are no errors at any time.

## Main definitions

* `Invocation.Muffled` — two results, of which the first lacks the warnings of a code

## Main statements

* `Reading.muffled_run` — the arguments behind are read alike
* `CommandLine.muffled_parse` — a command line with the option in front of it
* `Invocation.muffled_compile` — compiling
* `Invocation.muffled_run_nowarn` — whole invocations
-/

namespace BatchCompiler

/-! ## Reading -/

namespace ResponseFile

theorem reports_load (fs : FileSystem) (seen : List String) (file : String) :
    Notice.reports (load fs seen file).notices = [] := by
  unfold load
  split
  · rfl
  · split
    · rfl
    · rfl

/-- **An expansion reports nothing**; what it has to tell is for the transcript. -/
theorem reports_expandFrom (fs : FileSystem) (names seen done rest : List String) :
    Notice.reports (expandFrom fs names seen done rest).notices = [] := by
  fun_induction expandFrom fs names seen done rest with
  | case1 => rfl
  | case2 => rfl
  | case3 names seen done arg rest hseparator hplain ih => exact ih
  | case4 names seen done arg rest hseparator file hnamed loaded problem hresult =>
      exact reports_load fs seen file
  | case5 names seen done arg rest hseparator file hnamed loaded extra hresult hmem more ih =>
      exact ih
  | case6 names seen done arg rest hseparator file hnamed loaded extra hresult hmem =>
      exact reports_load fs seen file

end ResponseFile

/-- **Arguments are read alike** whether the warnings of a code are dropped or not. -/
theorem Reading.muffled_run {code : Int} {env : Environment} {most : Nat} {r r' : Reading}
    (h : Muffled code r r') (hcalm : ∀ turn ∈ turns env most r', turn.2.raised = false) :
    Option.Rel (fun x x' => x.1 = x'.1 ∧ Muffled code x.2 x'.2) (run env most r)
      (run env most r') :=
  @run_rel env r r' (Muffled code) (fun r => r.raised = false) (fun _ _ => muffled_turn) h most hcalm

namespace CommandLine

/-- Reading starts with nothing on record. -/
theorem start_engine (config : Config) {desk : Desk} (hengine : desk.engine = {}) (fs : FileSystem)
    (seen args unread : List String) :
    (start config desk (ResponseFile.expand fs seen args) unread).desk.engine = {} := by
  have htold := ResponseFile.reports_expandFrom fs (ResponseFile.readableNames fs args) seen [] args
  show (desk.takeAll (ResponseFile.expand fs seen args).notices).engine = {}
  rw [Desk.takeAll_engine, hengine]
  unfold ResponseFile.expand
  rw [htold]
  rfl

/-- **A command line with the option in front of it** takes a turn more.  Unless its response files
cannot be expanded, it is read alike from there on. -/
theorem muffled_parse {n most : Nat} {env : Environment} {config : Config} {desk : Desk}
    {args : List String} (hpos : 1 ≤ n) (hlimit : n ≤ 0x7fffffff) (hengine : desk.engine = {})
    (hcalm : ∀ turn ∈ turns env most config desk args, turn.2.raised = false) :
    (∃ problem r, r.desk.engine = {} ∧
      parse env (most + 1) config desk (("-nowarn:" ++ toString n) :: args) =
        some (.error problem, r) ∧
      parse env most config desk args = some (.error problem, r)) ∨
    Option.Rel (fun x x' => x.1 = x'.1 ∧ Reading.Muffled n x.2 x'.2)
      (parse env (most + 1) config desk (("-nowarn:" ++ toString n) :: args))
      (parse env most config desk args) := by
  have hplain : ResponseFile.fileNamed? ("-nowarn:" ++ toString n) = none := by
    refine ResponseFile.fileNamed?_eq_none_iff.mpr fun file hfile => ?_
    have hchars := Handler.toList_nowarn n
    rw [hfile, String.toList_append] at hchars
    exact absurd (List.cons_eq_cons.mp hchars).1 (by decide)
  unfold turns at hcalm
  unfold parse
  rw [ResponseFile.expand_cons_of_plain (Handler.nowarn_ne_separator n) hplain]
  have hstart (unread : List String) :=
    start_engine config hengine env.files config.responseFiles args unread
  generalize ResponseFile.expand env.files config.responseFiles args = expansion at hcalm hstart ⊢
  obtain ⟨result, seen, notices⟩ := expansion
  cases result with
  -- Without an expansion the option is never read, and the two readings are the same.
  | error problem => exact .inl ⟨problem, _, hstart [], rfl, rfl⟩
  | ok expanded =>
      refine .inr ?_
      dsimp only at hcalm
      have hturn := @Reading.turn_nowarn env n
        (start config desk ⟨.ok expanded, seen, notices⟩ (("-nowarn:" ++ toString n) :: expanded))
        expanded hpos hlimit rfl rfl rfl
      show Option.Rel _ (Reading.run env (most + 1)
        (start config desk ⟨.ok expanded, seen, notices⟩ (("-nowarn:" ++ toString n) :: expanded)))
        (Reading.run env most (start config desk ⟨.ok expanded, seen, notices⟩ expanded))
      rw [Reading.run, hturn]
      refine Reading.muffled_run ⟨rfl, rfl, rfl, rfl, ?_⟩ hcalm
      dsimp only
      rw [hstart, hstart]
      exact Engine.muffled_ignore rfl rfl n

end CommandLine

/-! ## Running -/

/-- **What may differ where warnings of a code are dropped**: the engines, and by these warnings only. -/
def Likeness.muffling {σ : Type} (code : Int) (journal : List JournalEntry) : Likeness σ where
  own := Eq
  engine := Engine.Muffled code
  before := (journal, journal)
  own_refl _ := rfl
  congruence := Engine.congruence_muffled code

namespace Invocation

variable {σ : Type}

/-- **Two results, of which the first lacks the warnings of a code**, and which are the same in all the
rest: the status, the files, the calls that were made. -/
structure Muffled (code : Int) (x x' : ExitStatus × Bench σ) : Prop where
  status : x.1 = x'.1
  own : x.2.own = x'.2.own
  files : x.2.files = x'.2.files
  journal : x.2.journal = x'.2.journal
  diagnostics : x.2.engine.diagnostics = withoutWarnings code x'.2.engine.diagnostics

variable {code : Int} {journal : List JournalEntry} {b b' : Bench σ}

/-- **The status is settled by errors alone.** -/
theorem settle_eq_of_muffled {e e' : Engine} (h : Engine.Muffled code e e') (completed : Bool) :
    (settle e completed).1 = (settle e' completed).1 := by
  unfold settle Engine.hasErrors
  rw [h.policy.expected, h.errors, h.expectedSeen]
  split
  · split
    · rfl
    · split
      · rfl
      · rfl
  · rfl

/-- Printing what there is to print. -/
theorem muffled_finish (h : b.Alike (.muffling code journal) b') (completed : Bool) :
    Muffled code ((finish b.desk completed).1, { b with desk := (finish b.desk completed).2 })
      ((finish b'.desk completed).1, { b' with desk := (finish b'.desk completed).2 }) := by
  have hengine : Engine.Muffled code b.engine b'.engine := h.engine
  obtain ⟨hstatus, hfinish⟩ := finish_eq b.desk completed
  obtain ⟨hstatus', hfinish'⟩ := finish_eq b'.desk completed
  obtain ⟨made, hmade, hmade'⟩ := h.journal
  refine ⟨?_, h.own, h.files, hmade.trans hmade'.symm, ?_⟩
  · rw [hstatus, hstatus']
    exact settle_eq_of_muffled hengine completed
  · show (finish b.desk completed).2.engine.diagnostics = _
    rw [hfinish, hengine.diagnostics]
    show _ = withoutWarnings code (finish b'.desk completed).2.engine.diagnostics
    rw [hfinish']

/-- What is made of a run. -/
def concluded (x : Except Stop RunOutcome × Session σ) : ExitStatus × Bench σ :=
  let (status, desk) := finish (x.2.bench.desk.take (resultNotice x.1)) (completed x.1)
  (status, { x.2.bench with desk })

theorem compile_eq_concluded (c : Collaborators σ) (config : Config) (b : Bench σ) :
    compile c config b =
      concluded ((Session.start config (announced config b)).run c (lastPhase config)) := rfl

/-- The status is settled on what is on record, which is left alone. -/
theorem concluded_eq (x : Except Stop RunOutcome × Session σ) :
    (concluded x).1 = (settle x.2.engine (completed x.1)).1 ∧
      (concluded x).2.engine = x.2.engine := by
  have hfinish := finish_eq (x.2.bench.desk.take (resultNotice x.1)) (completed x.1)
  rwa [take_resultNotice_engine] at hfinish

/-- The same result of two runs. -/
theorem muffled_concluded {s s' : Session σ} (h : s.bench.Alike (.muffling code journal) s'.bench)
    (result : Except Stop RunOutcome) :
    Muffled code (concluded (result, s)) (concluded (result, s')) := by
  have htold : Bench.Alike (.muffling code journal)
      { s.bench with desk := s.bench.desk.take (resultNotice result) }
      { s'.bench with desk := s'.bench.desk.take (resultNotice result) } := by
    refine { h with engine := ?_ }
    show Engine.Muffled code (s.bench.desk.take (resultNotice result)).engine
      (s'.bench.desk.take (resultNotice result)).engine
    rw [take_resultNotice_engine, take_resultNotice_engine]
    exact h.engine
  exact muffled_finish htold (completed result)

/-- **Compiling** with the warnings of a code dropped. -/
theorem muffled_compile {c : Collaborators σ} (hc : c.Alike (.muffling code journal))
    (config : Config) (h : b.Alike (.muffling code journal) b') :
    Muffled code (compile c config b) (compile c config b') := by
  have hstart : Session.Alike (.muffling code journal)
      { Session.start config (announced config b) with finished := true }
      { Session.start config (announced config b') with finished := true } := by
    refine ⟨⟨h.own, h.files, ?_, h.journal⟩, rfl, rfl, rfl, rfl, rfl, rfl, rfl, rfl⟩
    show Engine.Muffled code (announced config b).engine (announced config b').engine
    rw [announced_engine, announced_engine]
    exact h.engine
  obtain ⟨hresult, halike⟩ := Session.Alike.run hc (lastPhase config) rfl rfl hstart
  rw [compile_eq_concluded, compile_eq_concluded]
  generalize (Session.start config (announced config b)).run c (lastPhase config) = x
    at hresult halike
  generalize (Session.start config (announced config b')).run c (lastPhase config) = x'
    at hresult halike
  obtain ⟨result, s⟩ := x
  obtain ⟨_, s'⟩ := x'
  cases hresult
  exact muffled_concluded halike.bench result

/-! ## Invocations -/

/-- What is made of the arguments that have been read. -/
def answered (c : Collaborators σ) (bench : Bench σ) (x : Reading.Ending × Reading) :
    ExitStatus × Bench σ :=
  match x.1 with
  | .ok (.compile config) => compile c config { bench with desk := x.2.desk }
  | .ok (.info request) =>
      (.success, { bench with desk := x.2.desk.take (.event (.output request.text)) })
  | .error problem =>
      let told : List Notice :=
        [.log .debug .invocation ("argument error: " ++ problem.logText),
          .error problem.code problem.message]
      let (status, desk) := finish (x.2.desk.takeAll told) false
      (status, { bench with desk })

theorem run_eq_answered (c : Collaborators σ) (tool : FileSystem → PackageTool) (most : Nat)
    (base : Config) (args : List String) (bench : Bench σ) :
    run c tool most base args bench =
      (CommandLine.parse (environment c tool bench) most base
        { bench.desk with engine := {} } args).map (answered c bench) := rfl

/-- **The same ending of two readings.** -/
theorem muffled_answered {c : Collaborators σ} {bench : Bench σ}
    (hc : c.Alike (.muffling code bench.journal)) {r r' : Reading} (h : Reading.Muffled code r r')
    (ending : Reading.Ending) :
    Muffled code (answered c bench (ending, r)) (answered c bench (ending, r')) := by
  have halike : Bench.Alike (.muffling code bench.journal) { bench with desk := r.desk }
      { bench with desk := r'.desk } :=
    ⟨rfl, rfl, h.engine, [], (List.append_nil _).symm, (List.append_nil _).symm⟩
  rcases ending with problem | config | request
  · exact muffled_finish (Job.alike_tell _ _ _ halike).2 false
  · exact muffled_compile hc config halike
  · exact ⟨rfl, rfl, rfl, rfl, h.engine.diagnostics⟩

/-- An argument that cannot be understood is all there is on record, if nothing was before. -/
theorem muffled_answered_error (c : Collaborators σ) (bench : Bench σ) {r : Reading}
    (hr : r.desk.engine = {}) (problem : ArgumentError) (code : Int) :
    Muffled code (answered c bench (.error problem, r)) (answered c bench (.error problem, r)) := by
  have hfinish := (finish_eq (r.desk.takeAll
    [.log .debug .invocation ("argument error: " ++ problem.logText),
      .error problem.code problem.message]) false).2
  rw [Desk.takeAll_engine, hr] at hfinish
  refine ⟨rfl, rfl, rfl, rfl, ?_⟩
  show (finish _ _).2.engine.diagnostics = withoutWarnings code (finish _ _).2.engine.diagnostics
  rw [hfinish]
  rfl

/-- **To drop the warnings of a code changes no compilation.**  For every command line, with the option
in front of it an invocation comes to the same status, makes the same calls and leaves the same files,
as long as warnings are no errors while the command line is read; and it leaves the same record, less
the warnings of the code.  Neither of the two has a result if reading does not come to an end. -/
theorem muffled_run_nowarn {systemDirectory : Path} {toolkit : Text.Toolkit}
    {tool : FileSystem → PackageTool} {most n : Nat} {base : Config} {args : List String}
    {bench : Bench Host.Manifest} (hpos : 1 ≤ n) (hlimit : n ≤ 2147483647)
    (hcalm : ∀ turn ∈ CommandLine.turns
      (environment (Host.collaborators systemDirectory toolkit) tool bench) most base
      { bench.desk with engine := {} } args, turn.2.raised = false) :
    Option.Rel (Muffled n)
      (run (Host.collaborators systemDirectory toolkit) tool (most + 1) base
        (("-nowarn:" ++ toString n) :: args) bench)
      (run (Host.collaborators systemDirectory toolkit) tool most base args bench) := by
  have hc := Host.alike_collaborators (.muffling n bench.journal) systemDirectory toolkit
  rw [run_eq_answered, run_eq_answered]
  rcases CommandLine.muffled_parse hpos hlimit rfl hcalm with
    ⟨problem, r, hr, hparse, hparse'⟩ | hparsed
  · rw [hparse, hparse']
    exact .some (muffled_answered_error _ bench hr problem n)
  · revert hparsed
    generalize CommandLine.parse (environment _ tool bench) (most + 1) base
      { bench.desk with engine := {} } (("-nowarn:" ++ toString n) :: args) = parsed
    generalize CommandLine.parse (environment _ tool bench) most base
      { bench.desk with engine := {} } args = parsed'
    intro hparsed
    cases hparsed with
    | none => exact .none
    | @some x x' h =>
        obtain ⟨ending, r⟩ := x
        obtain ⟨_, r'⟩ := x'
        obtain ⟨hending, hreading⟩ := h
        cases hending
        exact .some (muffled_answered hc hreading ending)

/-- A bench with one source file, which is empty. -/
def sourceBench : Bench Host.Manifest := { own := {}, files := ⟨[], ⟨[(["a"], .file [])]⟩⟩ }

/-- A library of that file, which is named twice. -/
def twice : List String := ["-t:library", "-nostdlib", "-noconfig", "a", "a"]

/-- What these arguments ask for. -/
def twiceConfig : Config :=
  { target := .library, standardLibrary := false, defaultReferences := false, sources := ⟨[⟨"a"⟩]⟩ }

set_option maxRecDepth 4000 in
/-- A library of an empty file is saved, whatever is written and whatever is on record. -/
theorem run_twiceConfig (manifest : Host.Manifest → List UInt8) (xml : ProgramTree → List UInt8)
    (ds : List Diagnostic) (transcript : Transcript) :
    (fun x => (x.1, x.2.engine)) ((Session.start twiceConfig
      { sourceBench with desk := ⟨{ diagnostics := ds, warnings := 1 }, transcript⟩ }).run
      (Host.collaboratorsWriting ⟨""⟩ .bundled manifest xml) .save) =
        (.ok ⟨.save, some ⟨"a.dll"⟩, none⟩, { diagnostics := ds, warnings := 1 }) := by
  cbv

/-- The second mention of the file is warned of. -/
theorem exists_parse_twice : ∃ message r,
    CommandLine.parse
      (environment (Host.collaborators ⟨""⟩) PackageTool.ordinaryTools sourceBench) 6 {}
      { sourceBench.desk with engine := {} } twice = some (.ok (.compile twiceConfig), r) ∧
    r.desk.engine = { diagnostics := [⟨.warning, 2002, message, none⟩], warnings := 1 } := by
  unfold CommandLine.parse twice
  dsimp only
  rw [ResponseFile.expand_of_plain (by decide +kernel)]
  exact ⟨_, _, rfl, rfl⟩

/-- The library is saved nevertheless. -/
theorem exists_run_twice : ∃ x,
    run (Host.collaborators ⟨""⟩) PackageTool.ordinaryTools 6 {} twice sourceBench = some x ∧
    x.1 = .success ∧ x.2.engine.diagnostics.map Diagnostic.code = [2002] := by
  obtain ⟨message, r, hparse, hengine⟩ := exists_parse_twice
  have hdesk : r.desk = ⟨{ diagnostics := [⟨.warning, 2002, message, none⟩], warnings := 1 },
      r.desk.transcript⟩ := by
    rw [← hengine]
  have hrun := run_twiceConfig (fun m => Text.Utf8.encode m.text) Host.documentationBytes
    [⟨.warning, 2002, message, none⟩] r.desk.transcript
  rw [← Host.collaborators_eq_writing, ← hdesk] at hrun
  obtain ⟨hresult, hrecord⟩ := Prod.mk.inj hrun
  obtain ⟨hstatus, hconcluded⟩ := concluded_eq ((Session.start twiceConfig
    { sourceBench with desk := r.desk }).run (Host.collaborators ⟨""⟩) .save)
  rw [hresult, hrecord] at hstatus
  rw [hrecord] at hconcluded
  refine ⟨_, by rw [run_eq_answered, hparse]; rfl, hstatus, ?_⟩
  exact congrArg (·.diagnostics.map Diagnostic.code) hconcluded

/-- A library is saved from a source file that is named twice, which is warned of unless the warning is
dropped. -/
theorem muffled_run_nowarn_twice : ∃ x x',
    run (Host.collaborators ⟨""⟩) PackageTool.ordinaryTools 7 {} ("-nowarn:2002" :: twice)
      sourceBench = some x ∧
    run (Host.collaborators ⟨""⟩) PackageTool.ordinaryTools 6 {} twice sourceBench = some x' ∧
    x'.1 = .success ∧ x'.2.engine.diagnostics.map Diagnostic.code = [2002] ∧
    Muffled 2002 x x' := by
  have hcalm : ∀ turn ∈ CommandLine.turns
      (environment (Host.collaborators ⟨""⟩) PackageTool.ordinaryTools sourceBench) 6 {}
      { sourceBench.desk with engine := {} } twice, turn.2.raised = false := by
    unfold CommandLine.turns twice
    dsimp only
    rw [ResponseFile.expand_of_plain (by decide +kernel)]
    decide +kernel
  have hrel := @muffled_run_nowarn ⟨""⟩ .bundled PackageTool.ordinaryTools 6 2002 {} twice
    sourceBench (by decide) (by decide) hcalm
  have hargument : "-nowarn:" ++ toString 2002 = "-nowarn:2002" := by decide +kernel
  obtain ⟨x', hrun', hsuccess, hcodes⟩ := exists_run_twice
  rw [hargument, hrun'] at hrel
  generalize run _ _ (6 + 1) _ _ _ = result at hrel ⊢
  cases hrel with
  | some hmuffled => exact ⟨_, x', rfl, hrun', hsuccess, hcodes, hmuffled⟩

end Invocation

end BatchCompiler

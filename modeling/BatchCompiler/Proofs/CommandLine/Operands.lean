import Mathlib
import BatchCompiler.Proofs.CommandLine.Tail
import BatchCompiler.Proofs.Diagnostic.Kept
import BatchCompiler.Proofs.ResponseFile.Behind

/-!
# Arguments behind a separator

Behind the separator of the command line every argument is a source file, whatever it looks like and
whatever stands ahead of the separator.  A command line that compiles goes on doing so: the two
readings, with the separator and without it, run side by side until the shorter one is at its end, and
what is left of the longer one are source files.

## Main definitions

* `SourceSet.processAll` — source arguments taken in one after another
* `Reading.TakesIn` — what a reading has taken in besides, compared with an earlier one

## Main statements

* `Reading.run_withTail` — the two readings side by side
* `Reading.run_operands` — the arguments behind a separator
* `CommandLine.parse_append_separator` — the whole command line
-/

namespace BatchCompiler

open ResponseFile (options separator)

/-! ## Source arguments -/

namespace SourceSet

/-- **Take in source arguments in order**, each of them a file or a pattern for one directory. -/
def processAll (env : Environment) (s : SourceSet) : List String → SourceSet × List Notice
  | [] => (s, [])
  | spec :: rest =>
      let first := s.process env.files spec false env.toolkit.engine
      let others := first.1.processAll env rest
      (others.1, first.2 ++ others.2)

variable {env : Environment}

@[simp] theorem processAll_nil (s : SourceSet) : s.processAll env [] = (s, []) := rfl

theorem processAll_cons (s : SourceSet) (spec : String) (rest : List String) :
    s.processAll env (spec :: rest) =
      (((s.process env.files spec false env.toolkit.engine).1.processAll env rest).1,
        (s.process env.files spec false env.toolkit.engine).2 ++
          ((s.process env.files spec false env.toolkit.engine).1.processAll env rest).2) := rfl

theorem processAll_singleton (s : SourceSet) (spec : String) :
    s.processAll env [spec] = s.process env.files spec false env.toolkit.engine := by
  rw [processAll_cons, processAll_nil, List.append_nil]

theorem processAll_append (s : SourceSet) (specs more : List String) :
    s.processAll env (specs ++ more) =
      (((s.processAll env specs).1.processAll env more).1,
        (s.processAll env specs).2 ++ ((s.processAll env specs).1.processAll env more).2) := by
  induction specs generalizing s with
  | nil => rfl
  | cons spec rest ih =>
      rw [List.cons_append, processAll_cons, processAll_cons, ih, List.append_assoc]

theorem files_prefix_insert (s : SourceSet) (p : Path) : s.files <+: (s.insert p).files := by
  unfold insert
  split
  · exact List.prefix_rfl
  · exact List.prefix_append _ _

theorem files_prefix_takeInAll (spec : String) (s : SourceSet) (ms : List Met) :
    s.files <+: (s.takeInAll spec ms).1.files := by
  induction ms generalizing s with
  | nil => exact List.prefix_rfl
  | cons m rest ih =>
      cases m with
      | file p => exact (files_prefix_insert s p).trans (ih (s.insert p))
      | noDirectory p => exact ih s

/-- **No source file is lost** when an argument is taken in. -/
theorem files_prefix_process (fs : FileSystem) (engine : Regex.Engine) (s : SourceSet)
    (spec : String) (recurse : Bool) :
    s.files <+: (s.process fs spec recurse engine).1.files := by
  unfold process
  dsimp only
  split
  · exact files_prefix_insert s _
  · split
    · exact List.prefix_rfl
    · exact files_prefix_takeInAll spec s _

theorem files_prefix_processAll (s : SourceSet) (specs : List String) :
    s.files <+: (s.processAll env specs).1.files := by
  induction specs generalizing s with
  | nil => exact List.prefix_rfl
  | cons spec rest ih => exact (files_prefix_process _ _ s spec false).trans (ih _)

end SourceSet

/-- More source files are no less to compile. -/
theorem Config.hasInput_processAll {env : Environment} {c : Config} (h : c.hasInput = true)
    (specs : List String) :
    ({ c with sources := (c.sources.processAll env specs).1 } : Config).hasInput = true := by
  unfold Config.hasInput at h ⊢
  rw [Bool.or_eq_true] at h ⊢
  refine h.imp_left fun hsome => ?_
  have hprefix := @SourceSet.files_prefix_processAll env c.sources specs
  unfold SourceSet.isEmpty at hsome ⊢
  cases hfiles : c.sources.files with
  | nil =>
      rw [hfiles] at hsome
      cases hsome
  | cons p rest =>
      rw [hfiles] at hprefix
      obtain ⟨more, hmore⟩ := hprefix
      rw [← hmore]
      rfl

namespace Reading

variable {env : Environment} {r r' : Reading} {tail : List String}

/-! ## One turn -/

/-- **A turn that goes on does so with a tail behind.** -/
theorem turn_withTail (htail : options tail = []) (h : r.turn env = (none, r')) :
    (r.withTail tail).turn env = (none, r'.withTail tail) := by
  obtain ⟨arg, rest, hunread, hhandle, hrequest⟩ := perform_of_turn h
  have hunread' : (r.withTail tail).unread = arg :: (rest ++ tail) := by
    unfold withTail
    rw [hunread, List.cons_append]
  exact turn_of_perform hunread' (Handler.carries_handle htail env arg _ _ _ hhandle) hrequest

/-- Only the end of the arguments comes to a compilation. -/
theorem turn_eq_compile {config : Config}
    (h : r.turn env = (some (.ok (.compile config)), r')) :
    r' = r ∧ r.unread = [] ∧ r.config = config ∧ r.config.hasInput = true := by
  unfold turn at h
  cases hunread : r.unread with
  | nil =>
      simp only [hunread] at h
      unfold finish at h
      split at h
      · rename_i hinput
        cases h
        exact ⟨rfl, rfl, rfl, hinput⟩
      · cases h
  | cons arg rest =>
      simp only [hunread] at h
      split at h
      · cases h
      · split at h
        · cases h
        · cases h

/-! ## Two readings side by side -/

/-- **A reading that comes to a compilation** has read everything and was asked for nothing else. -/
theorem run_eq_compile {turns : Nat} {config : Config} (hrequest : r.request = none)
    (h : run env turns r = some (.ok (.compile config), r')) :
    r'.unread = [] ∧ r'.request = none ∧ r'.config = config ∧ r'.config.hasInput = true := by
  induction turns generalizing r with
  | zero => cases h
  | succ turns ih =>
      rw [run] at h
      rcases hturn : r.turn env with ⟨_ | ending, r₁⟩
      · rw [hturn] at h
        obtain ⟨-, -, -, -, hrequest₁⟩ := perform_of_turn hturn
        exact ih hrequest₁ h
      · rw [hturn] at h
        cases h
        obtain ⟨rfl, hunread, hconfig, hinput⟩ := turn_eq_compile hturn
        exact ⟨hunread, hrequest, hconfig, hinput⟩

/-- **Two readings side by side**: with a tail behind, the turns of a reading that comes to a
compilation lead to its end with the tail still unread. -/
theorem run_withTail (htail : options tail = []) {turns : Nat} {config : Config}
    (h : run env turns r = some (.ok (.compile config), r')) :
    ∃ used < turns, ∀ more,
      run env (used + more) (r.withTail tail) = run env more (r'.withTail tail) := by
  induction turns generalizing r with
  | zero => cases h
  | succ turns ih =>
      rw [run] at h
      rcases hturn : r.turn env with ⟨_ | ending, r₁⟩
      · rw [hturn] at h
        obtain ⟨used, hused, hmore⟩ := ih h
        refine ⟨used + 1, Nat.succ_lt_succ hused, fun more => ?_⟩
        rw [Nat.add_right_comm, run, turn_withTail htail hturn]
        exact hmore more
      · -- The turn that ends the shorter reading has no counterpart.
        rw [hturn] at h
        cases h
        obtain ⟨rfl, -⟩ := turn_eq_compile hturn
        exact ⟨0, Nat.succ_pos turns, fun more => by rw [Nat.zero_add]⟩

/-! ## Operands -/

/-- An argument that stands for source files behind a separator. -/
def isOperand (arg : String) : Bool := arg ≠ "" && arg ≠ separator

/-- **What a reading has taken in besides**: the configuration has the source arguments, the engine
what they reported, and nothing else differs in either. -/
structure TakesIn (env : Environment) (r : Reading) (specs : List String) (r' : Reading) : Prop where
  config : r'.config =
    { r.config with sources := (r.config.sources.processAll env specs).1 }
  engine : r'.desk.engine =
    r.desk.engine.submitAll (Notice.reports (r.config.sources.processAll env specs).2)

theorem TakesIn.append {specs more : List String} {r'' : Reading} (h : TakesIn env r specs r')
    (h' : TakesIn env r' more r'') : TakesIn env r (specs ++ more) r'' where
  config := by rw [h'.config, h.config, SourceSet.processAll_append]
  engine := by
    rw [h'.engine, h.engine, h.config, SourceSet.processAll_append, Notice.reports_append,
      Engine.submitAll_append]

/-- What handling an argument behind a separator comes to. -/
theorem perform_handle_operand {arg : String} (h : isOperand arg = true)
    (hclosed : r.optionsOpen = false) :
    perform (Handler.handle env arg) r = (.ok (), { r with
      config :=
        { r.config with
          sources := (r.config.sources.process env.files arg false env.toolkit.engine).1 }
      desk :=
        (r.desk.takeAll [.log .trace .options ("source argument " ++ arg)]).takeAll
          (r.config.sources.process env.files arg false env.toolkit.engine).2 }) := by
  unfold isOperand at h
  rw [Bool.and_eq_true, decide_eq_true_iff, decide_eq_true_iff] at h
  unfold Handler.handle
  rw [if_neg h.1, if_neg h.2, perform_bind, perform_get]
  dsimp only
  rw [if_neg (Bool.eq_false_iff.mp hclosed), perform_bind, Handler.perform_tell]
  exact Handler.perform_configureTelling _ _

/-- **One argument behind a separator** is a source file, or nothing. -/
theorem turn_operand {arg : String} {rest : List String} (hunread : r.unread = arg :: rest)
    (hclosed : r.optionsOpen = false) (hrequest : r.request = none) :
    ∃ r₁, r.turn env = (none, r₁) ∧ r₁.unread = rest ∧ r₁.optionsOpen = false ∧
      r₁.request = none ∧ TakesIn env r ([arg].filter isOperand) r₁ := by
  cases hoperand : isOperand arg with
  | true =>
      have hhandle := @perform_handle_operand env { r with unread := rest } arg hoperand hclosed
      refine ⟨_, turn_of_perform hunread hhandle hrequest, rfl, hclosed, hrequest, ?_⟩
      rw [List.filter_cons_of_pos hoperand, List.filter_nil]
      constructor
      · rw [SourceSet.processAll_singleton]
      · rw [SourceSet.processAll_singleton]
        exact Desk.takeAll_engine _ _
  | false =>
      refine ⟨{ r with unread := rest }, turn_of_perform hunread ?_ hrequest, rfl, hclosed,
        hrequest, ?_⟩
      · unfold isOperand at hoperand
        rw [Bool.and_eq_false_iff, decide_eq_false_iff_not, decide_eq_false_iff_not, not_not,
          not_not] at hoperand
        unfold Handler.handle
        rcases hoperand with rfl | rfl
        · rw [if_pos rfl, perform_pure]
        · rw [if_neg (by decide), if_pos rfl, perform_modify, ← hclosed]
      · rw [List.filter_cons_of_neg (by simp [hoperand]), List.filter_nil]
        exact ⟨rfl, rfl⟩

/-- **The arguments behind a separator** are source files, to the end of the command line. -/
theorem run_operands {args : List String} (hunread : r.unread = args)
    (hclosed : r.optionsOpen = false) (hrequest : r.request = none) (more : Nat) :
    ∃ r', run env (args.length + 1 + more) r = some (r'.finish, r') ∧
      TakesIn env r (args.filter isOperand) r' := by
  induction args generalizing r with
  | nil =>
      refine ⟨r, ?_, ⟨rfl, rfl⟩⟩
      rw [List.length_nil, Nat.add_right_comm, run]
      unfold turn
      simp only [hunread]
  | cons arg rest ih =>
      obtain ⟨r₁, hturn, hunread₁, hclosed₁, hrequest₁, htakes⟩ :=
        @turn_operand env r arg rest hunread hclosed hrequest
      obtain ⟨r', hrun, htakes'⟩ := ih hunread₁ hclosed₁ hrequest₁
      refine ⟨r', ?_, ?_⟩
      · rw [List.length_cons, Nat.add_right_comm rest.length, Nat.add_right_comm _ 1 more, run,
          hturn]
        exact hrun
      · rw [← List.singleton_append, List.filter_append]
        exact htakes.append htakes'

end Reading

/-! ## The command line -/

namespace CommandLine

/-- **What stands behind a separator is never reinterpreted.**  If a command line compiles, then so does
the one that continues with a separator and any arguments, whatever response files and packages the
first one names.  The configuration has more source files, those of each argument that is neither
empty nor a separator, and differs in nothing else; the reporting policy is the same; and the
diagnostics are followed by those of the source files that come in. -/
theorem parse_append_separator {env : Environment} {turns : Nat} {base config : Config} {desk : Desk}
    {pre : List String} {r : Reading}
    (hparse : parse env turns base desk pre = some (.ok (.compile config), r))
    (post : List String) :
    ∃ r', parse env (turns + (post.length + 1)) base desk (pre ++ separator :: post) =
        some (.ok (.compile { config with
          sources := (config.sources.processAll env (post.filter Reading.isOperand)).1 }), r') ∧
      r'.desk.engine.policy = r.desk.engine.policy ∧
      r'.desk.engine = r.desk.engine.submitAll (Notice.reports
        (config.sources.processAll env (post.filter Reading.isOperand)).2) ∧
      r'.desk.engine.diagnostics = r.desk.engine.diagnostics ++ (Notice.reports
        (config.sources.processAll env (post.filter Reading.isOperand)).2).filterMap
          r.desk.engine.policy.kept? := by
  have htail : options (separator :: post) = [] := by simp [options]
  unfold parse at hparse ⊢
  dsimp only at hparse ⊢
  rw [ResponseFile.expand_append htail]
  cases hresult : (ResponseFile.expand env.files base.responseFiles pre).result with
  | error problem =>
      rw [hresult] at hparse
      cases hparse
  | ok args =>
      rw [hresult] at hparse
      have hrequest : (start base desk
        (ResponseFile.expand env.files base.responseFiles pre) args).request = none := rfl
      obtain ⟨hunread, hrequest', hconfig, hinput⟩ := Reading.run_eq_compile hrequest hparse
      obtain ⟨used, hused, hmore⟩ := Reading.run_withTail htail hparse
      -- The turns left suffice for the separator, the arguments behind it and the end.
      obtain ⟨left, hleft⟩ : ∃ left, turns + (post.length + 1) =
          used + (post.length + 1 + left + 1) :=
        ⟨turns - used - 1, by omega⟩
      -- The separator itself takes one turn and closes the options.
      have hseparator : (r.withTail (separator :: post)).turn env =
          (none, { r with unread := post, optionsOpen := false }) := by
        refine Reading.turn_of_perform (by rw [Reading.withTail, hunread, List.nil_append]) ?_ hrequest'
        rfl
      obtain ⟨r', hrun, htakes⟩ := @Reading.run_operands env
        { r with unread := post, optionsOpen := false } post rfl rfl hrequest' left
      have hconfig' : r'.config = { config with
          sources := (config.sources.processAll env (post.filter Reading.isOperand)).1 } := by
        rw [htakes.config, hconfig]
      have hfinish : r'.finish = .ok (.compile r'.config) := by
        unfold Reading.finish
        rw [hconfig', if_pos (Config.hasInput_processAll (hconfig ▸ hinput) _)]
      have hengine : r'.desk.engine = r.desk.engine.submitAll (Notice.reports
          (config.sources.processAll env (post.filter Reading.isOperand)).2) := by
        rw [htakes.engine, hconfig]
      refine ⟨r', ?_, ?_, hengine, ?_⟩
      · rw [ResponseFile.Outcome.result_withTail hresult]
        show Reading.run env (turns + (post.length + 1)) ((start base desk
            (ResponseFile.expand env.files base.responseFiles pre) args).withTail
              (separator :: post)) = _
        rw [hleft, hmore, Reading.run, hseparator]
        dsimp only
        rw [hrun, hfinish, hconfig']
      · rw [hengine, Engine.submitAll_policy]
      · rw [hengine, Engine.submitAll_diagnostics]

/-- An environment with a response file that has a separator of its own, and ahead of it a package
option for which the tool answers an option and a source file. -/
def nested : Environment where
  files := ⟨[], ⟨[(["args"], .file (Text.Utf8.encode "-pkg:p -- b"))]⟩⟩
  packageTool := fun _ _ => .ended true (Text.Utf8.encode "-v a") ""

theorem expand_nested : ResponseFile.expand nested.files [] ["@args"] =
    ⟨.ok ["-pkg:p", "--", "b"], ["args"],
      [.log .debug .responseFile "response file args expanded to 3 arguments"]⟩ := by cbv

theorem parse_nested :
    ∃ r, parse nested 6 {} {} ["@args"] = some (.ok (.compile
        { sources := ⟨[⟨"a"⟩, ⟨"b"⟩]⟩, parserVerbosity := 1, responseFiles := ["args"] }), r) ∧
      r.desk.engine = {} := by
  unfold parse
  dsimp only
  rw [expand_nested]
  exact ⟨_, rfl, rfl⟩

/-- Behind the separator `-help` is a source file, and `a` is one that the package named already. -/
theorem parse_append_separator_nested :
    ∃ r r', parse nested 6 {} {} ["@args"] = some (.ok (.compile
        { sources := ⟨[⟨"a"⟩, ⟨"b"⟩]⟩, parserVerbosity := 1, responseFiles := ["args"] }), r) ∧
      parse nested 11 {} {} ["@args", "--", "-help", "", "--", "a"] = some (.ok (.compile
        { sources := ⟨[⟨"a"⟩, ⟨"b"⟩, ⟨"-help"⟩]⟩, parserVerbosity := 1,
          responseFiles := ["args"] }), r') ∧
      r'.desk.engine.diagnostics =
        [⟨.warning, 2002, "Source file `a' specified multiple times", none⟩] := by
  obtain ⟨r, hparse, hengine⟩ := parse_nested
  obtain ⟨r', hlonger, -, -, hdiagnostics⟩ :=
    parse_append_separator hparse ["-help", "", "--", "a"]
  rw [hengine] at hdiagnostics
  exact ⟨r, r', hparse, hlonger, hdiagnostics⟩

end CommandLine

end BatchCompiler

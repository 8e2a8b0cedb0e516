import Mathlib.Logic.Relation
import BatchCompiler.Proofs.CommandLine.Alike
import BatchCompiler.Proofs.CommandLine.Spelling
import BatchCompiler.Proofs.ResponseFile.Queue

/-!
# Packages written by hand

What the package tool answers is read as if it stood on the command line, ahead of the separator.  That
goes for every package option a reading comes to, whatever has been read or added before.

## Main definitions

* `Reading.Reaches` — a reading comes to another one, turn by turn
* `PackageTool.emptyAnswer` — what is reported of an answer without words
* `Reading.ToolAnswers` — the tool is asked, and answers
* `Reading.withWords` — a reading with the words of an answer written by hand

## Main statements

* `Reading.turn_packages` — the turn that reads a package option
* `Reading.run_packages` — what is read after it
-/

namespace BatchCompiler

/-! ## The tool -/

namespace PackageTool

/-- What is reported of an answer, which is nothing if it has words. -/
def emptyAnswer (words : List String) : List Notice :=
  if words = [] then [.warning (-27) "Specified package did not return any information"] else []

/-- A run that ends well answers the words of its output. -/
theorem expand_of_ended {tool : PackageTool} {program : Path} {leading : List String}
    {packages problems : String} {output : List UInt8}
    (h : tool program (arguments leading (Text.entries packages)) = .ended true output problems) :
    (expand tool program leading packages).1 = .ok (Text.words (Text.Utf8.decode output)) := by
  unfold expand
  dsimp only
  rw [h]
  rfl

/-- **A warning is all that is reported** of a tool that answers, if it answers no word. -/
theorem reports_expand {tool : PackageTool} {program : Path} {leading words : List String}
    {packages : String} (h : (expand tool program leading packages).1 = .ok words) :
    Notice.reports (expand tool program leading packages).2 =
      Notice.reports (emptyAnswer words) := by
  unfold expand at h ⊢
  dsimp only at h ⊢
  generalize tool program (arguments leading (Text.entries packages)) = answer at h ⊢
  cases answer with
  | notStarted fault => cases h
  | ended success output problems =>
      cases success with
      | false => cases h
      | true =>
          cases h
          dsimp only
          rw [if_pos rfl, Notice.reports_append, Notice.reports_append]
          unfold emptyAnswer
          by_cases hproblems : problems = ""
          · rw [if_pos hproblems]
            simp only [List.isEmpty_iff]
            rfl
          · rw [if_neg hproblems]
            simp only [List.isEmpty_iff]
            rfl

end PackageTool

/-- What the tool answers is unread, ahead of the separator. -/
theorem Handler.perform_expandPackages_ok {env : Environment} {packages : String}
    {words : List String} {r : Reading}
    (h : (PackageTool.expand env.packageTool r.config.packageProgram r.config.packageArguments
      packages).1 = .ok words) :
    perform (expandPackages env packages) r = (.ok (), { r with
      desk := r.desk.takeAll (PackageTool.expand env.packageTool r.config.packageProgram
        r.config.packageArguments packages).2
      unread := ResponseFile.spliceBeforeSeparator r.unread words }) := by
  unfold expandPackages
  rw [perform_bind, perform_get]
  dsimp only
  rw [perform_bind, perform_tell]
  dsimp only
  rw [h]
  rfl

/-- If the tool fails, so does the handler. -/
theorem Handler.perform_expandPackages_error {env : Environment} {packages : String}
    {problem : ArgumentError} {r : Reading}
    (h : (PackageTool.expand env.packageTool r.config.packageProgram r.config.packageArguments
      packages).1 = .error problem) :
    perform (expandPackages env packages) r = (.error problem, { r with
      desk := r.desk.takeAll (PackageTool.expand env.packageTool r.config.packageProgram
        r.config.packageArguments packages).2 }) := by
  unfold expandPackages
  rw [perform_bind, perform_get]
  dsimp only
  rw [perform_bind, perform_tell]
  dsimp only
  rw [h]
  rfl

/-! ## Splicing -/

namespace ResponseFile

variable {ahead behind : List String}

/-- The parts of some arguments, ahead of the first separator and from there on. -/
theorem parts_append (hahead : separator ∉ ahead)
    (hbehind : behind = [] ∨ behind.head? = some separator) :
    options (ahead ++ behind) = ahead ∧ operands (ahead ++ behind) = behind := by
  have hnone : options behind = [] := by
    obtain rfl | hseparator := hbehind
    · rfl
    · obtain ⟨tail, rfl⟩ : ∃ tail, behind = separator :: tail :=
        ⟨_, List.eq_cons_of_mem_head? hseparator⟩
      rfl
  have hall : options ahead = ahead := by
    refine List.takeWhile_eq_self_iff.mpr fun arg mem => decide_eq_true ?_
    rintro rfl
    exact hahead mem
  have hoptions : options (ahead ++ behind) = ahead := by
    rw [options_append_of_options_eq_nil hnone, hall]
  have hparts := options_append_operands (ahead ++ behind)
  rw [hoptions] at hparts
  exact ⟨hoptions, List.append_cancel_left hparts⟩

/-- **A splice behind a cursor.**  Counted from the start of all arguments, those that are read
included, the place is as far behind the cursor as the first separator that is not read. -/
theorem splice_behind_cursor (done unread extra : List String) :
    (done ++ unread).take (done.length + separatorIndex unread) ++ extra ++
        (done ++ unread).drop (done.length + separatorIndex unread) =
      done ++ spliceBeforeSeparator unread extra := by
  have hparts : options unread ++ operands unread = unread := options_append_operands unread
  have htake : unread.take (separatorIndex unread) = options unread :=
    calc unread.take (options unread).length
        = (options unread ++ operands unread).take (options unread).length := by rw [hparts]
      _ = options unread := List.take_left
  have hdrop : unread.drop (separatorIndex unread) = operands unread :=
    calc unread.drop (options unread).length
        = (options unread ++ operands unread).drop (options unread).length := by rw [hparts]
      _ = operands unread := List.drop_left
  rw [List.take_length_add_append, List.drop_length_add_append, htake, hdrop,
    spliceBeforeSeparator_eq]
  simp only [List.append_assoc]

end ResponseFile

/-! ## Readings -/

/-- **What is written behind `-pkg:`** is read as packages. -/
theorem Meaning.ofArgument_pkg (packages : String) (behind : List String) :
    ofArgument true ("-pkg:" ++ packages) behind = colon .packages ⟨"/pkg", packages, true⟩ := by
  have hfound : ColonOption.find? (Text.lowerCase "pkg") = some (.packages, true) := by decide +kernel
  have hwritten : "-pkg:" ++ packages = "-" ++ "pkg" ++ (":" ++ packages) := by
    rw [← String.append_assoc]
    rfl
  rw [hwritten]
  refine ofArgument_of_found (.inl rfl) hfound (.inr rfl) ?_
  exact LegacyOption.find?_of_colon (by simp)

namespace Reading

variable {env : Environment} {r : Reading} {packages : String} {words ahead behind rest : List String}

/-- **A reading comes to another one**, turn by turn. -/
def Reaches (env : Environment) : Reading → Reading → Prop :=
  Relation.ReflTransGen fun r r' => r.turn env = (none, r')

/-- Whoever asks for information has come to the end. -/
theorem request_of_turn {r' : Reading} (h : r.turn env = (none, r')) : r'.request = none := by
  obtain ⟨arg, rest, -, -, hrequest⟩ := perform_of_turn h
  exact hrequest

theorem Reaches.request {r' : Reading} (h : r.Reaches env r') (hstart : r.request = none) :
    r'.request = none := by
  induction h with
  | refl => exact hstart
  | tail _ hturn _ => exact request_of_turn hturn

/-- **The tool answers some words** to a package option: it is asked, as it is if there are packages, and
succeeds. -/
def ToolAnswers (env : Environment) (r : Reading) (packages : String) (words : List String) : Prop :=
  packages ≠ "" ∧
    (PackageTool.expand env.packageTool r.config.packageProgram r.config.packageArguments packages).1 =
      .ok words

/-- **The words of an answer written by hand**, ahead of all that is behind the separator; that there
are none is reported. -/
def withWords (r : Reading) (ahead words behind : List String) : Reading :=
  { r with
    desk := r.desk.takeAll (PackageTool.emptyAnswer words), unread := ahead ++ words ++ behind }

theorem turn_pkg (hopen : r.optionsOpen = true) (hunread : r.unread = ("-pkg:" ++ packages) :: rest) :
    r.turn env =
      conclude (perform (ColonOption.packages.apply env ⟨"/pkg", packages, true⟩)
          { r with unread := rest }).1
        (perform (ColonOption.packages.apply env ⟨"/pkg", packages, true⟩)
          { r with unread := rest }).2 := by
  have hmeaning := Meaning.ofArgument_pkg packages rest
  rw [← hopen] at hmeaning
  exact turn_of_meaning hunread hmeaning rfl

/-- **A package option without packages** is an error, and no tool is asked. -/
theorem turn_pkg_empty (hopen : r.optionsOpen = true) (hunread : r.unread = "-pkg:" :: rest) :
    r.turn env = (some (.error (.missingArgument "/pkg" 5)), { r with unread := rest }) := by
  have hwritten : r.unread = ("-pkg:" ++ "") :: rest := hunread
  rw [turn_pkg hopen hwritten]
  rfl

/-- **A package option that is answered**: the words are unread, and nothing else is. -/
theorem turn_packages (hopen : r.optionsOpen = true) (hrequest : r.request = none)
    (hunread : r.unread = ("-pkg:" ++ packages) :: rest) (hanswers : r.ToolAnswers env packages words) :
    r.turn env = (none, { r with
      desk := r.desk.takeAll (PackageTool.expand env.packageTool r.config.packageProgram
        r.config.packageArguments packages).2
      unread := ResponseFile.spliceBeforeSeparator rest words }) := by
  have hperform : perform (ColonOption.packages.apply env ⟨"/pkg", packages, true⟩)
      { r with unread := rest } = (.ok (), { r with
        desk := r.desk.takeAll (PackageTool.expand env.packageTool r.config.packageProgram
          r.config.packageArguments packages).2
        unread := ResponseFile.spliceBeforeSeparator rest words }) := by
    rw [ColonOption.apply, ColonOption.required, ColonOption.requiredOr_bind_of_ne hanswers.1]
    exact Handler.perform_expandPackages_ok hanswers.2
  rw [turn_pkg hopen hunread, hperform]
  unfold conclude
  dsimp only
  rw [hrequest]

/-- **Packages written by hand.**  A reading that has come to a package option goes on as it would with
the words of the answer ahead of the first separator, in place of the option, and with a warning if the
answer has no words; without packages it ends.  The argument vector behind a cursor, whatever was read
before, holds all that was unread in its order, and the words. -/
theorem run_packages {config : Config} {desk : Desk} {expansion : ResponseFile.Outcome}
    {args : List String} (hreaches : (CommandLine.start config desk expansion args).Reaches env r)
    (hopen : r.optionsOpen = true) (hunread : r.unread = ("-pkg:" ++ packages) :: (ahead ++ behind))
    (hahead : ResponseFile.separator ∉ ahead)
    (hbehind : behind = [] ∨ behind.head? = some ResponseFile.separator) :
    (packages = "" →
        r.turn env =
          (some (.error (.missingArgument "/pkg" 5)), { r with unread := ahead ++ behind })) ∧
      ∀ words, r.ToolAnswers env packages words →
        (r.turn env).1 = none ∧ (r.turn env).2.unread = ahead ++ words ++ behind ∧
          (∀ turns, Option.Rel (fun x y => x.1 = y.1 ∧ Alike Eq x.2 y.2)
            (run env (turns + 1) r) (run env turns (r.withWords ahead words behind))) ∧
          ∀ done,
            let place := done.length + ResponseFile.separatorIndex (ahead ++ behind)
            (done ++ (ahead ++ behind)).take place ++ words ++ (done ++ (ahead ++ behind)).drop place =
              done ++ (r.turn env).2.unread := by
  refine ⟨?_, fun words hanswers => ?_⟩
  · rintro rfl
    exact turn_pkg_empty hopen hunread
  · have hrequest : r.request = none := hreaches.request rfl
    have hturn := turn_packages hopen hrequest hunread hanswers
    obtain ⟨hoptions, hoperands⟩ := ResponseFile.parts_append hahead hbehind
    have hsplice : ResponseFile.spliceBeforeSeparator (ahead ++ behind) words =
        ahead ++ words ++ behind := by
      rw [ResponseFile.spliceBeforeSeparator_eq, hoptions, hoperands, List.append_assoc]
    have hleft : (r.turn env).2.unread = ahead ++ words ++ behind := by
      rw [hturn]
      exact hsplice
    refine ⟨by rw [hturn], hleft, fun turns => ?_, fun done => ?_⟩
    · -- The transcripts differ, since only the reading with the option tells that a tool is run.
      have halike : Alike Eq (r.turn env).2 (r.withWords ahead words behind) := by
        rw [hturn]
        refine ⟨rfl, hsplice, rfl, rfl, ?_⟩
        show (r.desk.takeAll _).engine = (r.desk.takeAll _).engine
        rw [Desk.takeAll_engine, Desk.takeAll_engine, PackageTool.reports_expand hanswers.2]
      have hrun : run env (turns + 1) r = run env turns (r.turn env).2 := by
        rw [run, hturn]
      rw [hrun]
      exact alike_run (fun _ => Engine.likeness_eq) halike turns
    · dsimp only
      rw [hleft, ← hsplice]
      exact ResponseFile.splice_behind_cursor done (ahead ++ behind) words

/-- An environment in which the tool answers an option for one package and nothing for any other. -/
def onePackage : Environment where
  files := ⟨[], ⟨[]⟩⟩
  packageTool := fun _ args =>
    .ended true (if args = ["--libs", "a"] then Text.Utf8.encode "-d:A" else []) ""

/-- A package option without an answer, behind one that has added an option. -/
theorem run_packages_twice :
    let args := ["-pkg:a", "-pkg:b", "x.cs", "--", "y.cs"]
    let r := ((CommandLine.start {} {} ⟨.ok args, [], []⟩ args).turn onePackage).2
    r.unread = ["-pkg:b", "x.cs", "-d:A", "--", "y.cs"] ∧ r.ToolAnswers onePackage "b" [] ∧
      (r.turn onePackage).2.unread = ["x.cs", "-d:A", "--", "y.cs"] ∧
      ∀ turns, Option.Rel (fun x y => x.1 = y.1 ∧ Alike Eq x.2 y.2)
        (run onePackage (turns + 1) r)
        (run onePackage turns (r.withWords ["x.cs", "-d:A"] [] ["--", "y.cs"])) := by
  intro args r
  have hturn : (CommandLine.start {} {} ⟨.ok args, [], []⟩ args).turn onePackage = (none, r) := by
    refine Prod.ext ?_ rfl
    decide +kernel
  have hreaches : (CommandLine.start {} {} ⟨.ok args, [], []⟩ args).Reaches onePackage r :=
    .single hturn
  have hunread : r.unread = ("-pkg:" ++ "b") :: (["x.cs", "-d:A"] ++ ["--", "y.cs"]) := by
    decide +kernel
  have hanswers : r.ToolAnswers onePackage "b" [] := ⟨by decide, by decide +kernel⟩
  have hopen : r.optionsOpen = true := by decide +kernel
  obtain ⟨-, hleft, hrun, -⟩ :=
    (run_packages hreaches hopen hunread (by decide) (.inr rfl)).2 [] hanswers
  exact ⟨hunread, hanswers, hleft, hrun⟩

end Reading

end BatchCompiler

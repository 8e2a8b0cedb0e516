import Mathlib.Logic.Hydra
import BatchCompiler.Proofs.CommandLine.Packages
import BatchCompiler.Proofs.ResponseFile.Behind

/-!
# When reading a command line ends

Each turn reads an argument, and only what the package tool answers adds any.  So reading ends exactly
if the tool answers so many words in all and no more.  Nothing sees to that: no record is kept of the
packages that have been asked for, and an answer may ask for them again.  It does see to it if no
argument leads back to itself by what the tool may answer.

## Main definitions

* `Reading.answer`, `Reading.answered` — the words answered in a turn, and in so many turns
* `Environment.MayAnswer` — a word that the tool may answer to an argument

## Main statements

* `Reading.unread_of_turn` — what a turn leaves unread
* `Reading.turns_le_of_run_eq_none` — a reading that goes on has been answered as many words
* `Reading.exists_run_of_acc` — arguments that do not lead back to themselves
* `CommandLine.parse_ends` — when a command line is read to its end
-/

namespace BatchCompiler

open Relation (CutExpand TransGen ReflTransGen)

/-! ## Handlers that ask no tool -/

namespace Handler

variable {α : Type} {env : Environment}

/-- **A handler made of operations leaves alone what is unread**, if the tool answers nothing. -/
theorem Does.unread {allowed : ReportingPolicy.Setting → Prop} {m : Handler α}
    {as : List Addition} (h : Does env allowed m as) (hmute : ∀ program leading packages words,
      (PackageTool.expand env.packageTool program leading packages).1 ≠ .ok words)
    (r : Reading) : (perform m r).2.unread = r.unread := by
  -- Of the operations, only the expansion of packages adds arguments, and here it fails.
  induction h generalizing r with
  | pure | throw | tell | setPolicy | configure | close | ask | source | resource | reference
  | symbol => rfl
  | expandPackages packages =>
      cases hanswer : (PackageTool.expand env.packageTool r.config.packageProgram
          r.config.packageArguments packages).1 with
      | error problem => rw [perform_expandPackages_error hanswer]
      | ok words => exact absurd hanswer (hmute _ _ _ _)
  | bind _ _ ihm ihf =>
      rw [perform_bind, ← ihm r]
      rcases perform _ r with ⟨problem | a, r₁⟩
      · rfl
      · exact ihf a r₁
  | andThen _ _ _ ihm ihf =>
      rw [perform_bind, ← ihm r]
      rcases perform _ r with ⟨problem | a, r₁⟩
      · rfl
      · exact ihf r₁

end Handler

/-- An environment with the same files and a tool that fails. -/
def Environment.mute (env : Environment) : Environment :=
  { env with packageTool := fun _ _ => .ended false [] "" }

theorem Environment.mute_answers (env : Environment) (program : Path) (leading : List String)
    (packages : String) (words : List String) :
    (PackageTool.expand env.mute.packageTool program leading packages).1 ≠ .ok words := by
  intro h
  cases h

variable {env : Environment}

/-- Of the colon options, one alone asks the tool. -/
theorem ColonOption.unread_apply {o : ColonOption} (ho : o ≠ .packages) (written : ColonArgument)
    (r : Reading) : (perform (o.apply env written) r).2.unread = r.unread := by
  have hmute : o.apply env written = o.apply env.mute written := by
    cases o with
    | packages => exact absurd rfl ho
    | _ => rfl
  rw [hmute]
  exact (does_apply written o).unread env.mute_answers r

/-- No legacy option asks the tool. -/
theorem LegacyOption.unread_apply (o : LegacyOption) (arg value : String) (r : Reading) :
    (perform (o.apply env arg value) r).2.unread = r.unread := by
  have hmute : o.apply env arg value = o.apply env.mute arg value := by
    cases o with
    | _ => rfl
  rw [hmute]
  exact (does_apply arg value o).unread env.mute_answers r

/-! ## What is answered -/

namespace ResponseFile

theorem spliceBeforeSeparator_nil (args : List String) : spliceBeforeSeparator args [] = args := by
  rw [spliceBeforeSeparator_eq, List.nil_append, options_append_operands]

theorem spliceBeforeSeparator_perm (args extra : List String) :
    (spliceBeforeSeparator args extra).Perm (args ++ extra) := by
  have hparts : (options args ++ operands args ++ extra).Perm
      (options args ++ (extra ++ operands args)) := by
    rw [List.append_assoc]
    exact (List.perm_append_comm).append_left _
  rw [options_append_operands] at hparts
  rw [spliceBeforeSeparator_eq]
  exact hparts.symm

end ResponseFile

namespace Meaning

/-- **The words that the tool answers** to an argument that is read so; none unless it is a package
option and the tool succeeds. -/
def answer (env : Environment) (config : Config) : Meaning → List String
  | colon .packages written =>
      if written.value = "" then []
      else (PackageTool.expand env.packageTool config.packageProgram config.packageArguments
        written.value).1.toOption.getD []
  | _ => []

theorem answer_eq_nil {meaning : Meaning} {config : Config}
    (h : ∀ written, meaning ≠ colon .packages written) : meaning.answer env config = [] := by
  unfold answer
  split
  · exact absurd rfl (h _)
  · rfl

/-- Words are answered to a package option that is not empty, by a tool that succeeds. -/
theorem exists_of_mem_answer {meaning : Meaning} {config : Config} {word : String}
    (h : word ∈ meaning.answer env config) :
    ∃ written words, meaning = colon .packages written ∧
      (PackageTool.expand env.packageTool config.packageProgram config.packageArguments
        written.value).1 = .ok words ∧ word ∈ words := by
  unfold answer at h
  split at h
  · rename_i written
    split at h
    · cases h
    · cases hanswer : (PackageTool.expand env.packageTool config.packageProgram
          config.packageArguments written.value).1 with
      | error problem =>
          rw [hanswer] at h
          cases h
      | ok words =>
          rw [hanswer] at h
          exact ⟨written, words, rfl, hanswer, h⟩
  · cases h

/-- The option that asks the tool, once it has been answered. -/
theorem unread_packages {written : ColonArgument} {r r' : Reading}
    (h : perform (ColonOption.packages.apply env written) r = (.ok (), r')) :
    r'.unread =
      ResponseFile.spliceBeforeSeparator r.unread (answer env r.config (colon .packages written)) := by
  rw [ColonOption.apply, ColonOption.required] at h
  by_cases hvalue : written.value = ""
  · rw [ColonOption.requiredOr_bind_of_empty hvalue] at h
    cases h
  · rw [ColonOption.requiredOr_bind_of_ne hvalue] at h
    cases hanswer : (PackageTool.expand env.packageTool r.config.packageProgram
        r.config.packageArguments written.value).1 with
    | error problem =>
        rw [Handler.perform_expandPackages_error hanswer] at h
        cases h
    | ok words =>
        have hwords : answer env r.config (colon .packages written) = words := by
          rw [answer, if_neg hvalue, hanswer]
          rfl
        rw [Handler.perform_expandPackages_ok hanswer] at h
        rw [hwords]
        cases h
        rfl

/-- **What is unread after an argument** is what was unread, and the words that are answered to it. -/
theorem unread_handler {arg : String} {meaning : Meaning} {r r' : Reading}
    (h : perform (meaning.handler env arg) r = (.ok (), r')) :
    r'.unread = ResponseFile.spliceBeforeSeparator r.unread (meaning.answer env r.config) := by
  have hsame (hanswer : meaning.answer env r.config = [])
      (hunread : (perform (meaning.handler env arg) r).2.unread = r.unread) :
      r'.unread = ResponseFile.spliceBeforeSeparator r.unread (meaning.answer env r.config) := by
    rw [hanswer, ResponseFile.spliceBeforeSeparator_nil, ← hunread, h]
  cases meaning with
  | nothing | separator => exact hsame rfl rfl
  | legacy o value =>
      refine hsame rfl ?_
      unfold handler
      rw [perform_tell_bind]
      exact o.unread_apply arg value _
  | valueless o => cases h
  | unrecognized => cases h
  | source => exact hsame rfl rfl
  | colon o written =>
      by_cases ho : o = .packages
      · subst ho
        exact unread_packages h
      · refine hsame (answer_eq_nil ?_) (ColonOption.unread_apply ho written r)
        rintro _ ⟨⟩
        exact ho rfl

end Meaning

namespace Reading

variable {r r' : Reading}

/-- The words that the tool answers to the next argument. -/
def answer (env : Environment) (r : Reading) : List String :=
  (r.meaning?.map (·.answer env r.config)).getD []

/-- **The words that the tool answers** in so many turns. -/
def answered (env : Environment) : (turns : Nat) → Reading → List String
  | 0, _ => []
  | turns + 1, r =>
      r.answer env ++
        match r.turn env with
        | (some _, _) => []
        | (none, r') => answered env turns r'

/-- **What a turn leaves unread**: the arguments behind the one that is read, those that it takes along
left out, and the words that are answered. -/
theorem unread_of_turn (h : r.turn env = (none, r')) :
    ∃ arg rest meaning, r.unread = arg :: rest ∧
      meaning = Meaning.ofArgument r.optionsOpen arg rest ∧
      r.answer env = meaning.answer env r.config ∧
      r'.unread = ResponseFile.spliceBeforeSeparator (rest.drop meaning.taken) (r.answer env) := by
  obtain ⟨arg, rest, meaning, hunread, hmeaning, hcarried⟩ := exists_of_turn h
  have hanswer : r.answer env = meaning.answer env r.config := by
    unfold answer
    rw [hmeaning]
    rfl
  have hread : meaning = Meaning.ofArgument r.optionsOpen arg rest := by
    unfold meaning? at hmeaning
    rw [hunread] at hmeaning
    exact (Option.some.inj hmeaning).symm
  refine ⟨arg, rest, meaning, hunread, hread, hanswer, ?_⟩
  rw [hanswer]
  exact Meaning.unread_handler hcarried

/-- **A turn that goes on** has read an argument, and only what is answered has been added. -/
theorem length_unread_of_turn (h : r.turn env = (none, r')) :
    r'.unread.length + 1 ≤ r.unread.length + (r.answer env).length := by
  obtain ⟨arg, rest, meaning, hunread, -, -, hleft⟩ := unread_of_turn h
  have hlength : r'.unread.length = (rest.drop meaning.taken).length + (r.answer env).length := by
    rw [hleft, (ResponseFile.spliceBeforeSeparator_perm _ _).length_eq, List.length_append]
  rw [hlength, hunread, List.length_drop, List.length_cons]
  omega

/-- **A reading that has not ended** in so many turns has been answered about as many words. -/
theorem turns_le_of_run_eq_none {turns : Nat} (h : run env turns r = none) :
    turns ≤ r.unread.length + (r.answered env turns).length := by
  induction turns generalizing r with
  | zero => exact Nat.zero_le _
  | succ turns ih =>
      rw [run] at h
      rw [answered, List.length_append]
      rcases hturn : r.turn env with ⟨_ | ending, r'⟩
      · rw [hturn] at h
        have hrest := ih h
        have hstep := length_unread_of_turn hturn
        dsimp only
        omega
      · rw [hturn] at h
        cases h

/-- A reading that ends is answered no more words after its end. -/
theorem length_answered_le_of_run {turns : Nat} (h : (run env turns r).isSome = true) (more : Nat) :
    (r.answered env more).length ≤ (r.answered env turns).length := by
  induction turns generalizing r more with
  | zero => cases h
  | succ turns ih =>
      cases more with
      | zero => exact Nat.zero_le _
      | succ more =>
          rw [run] at h
          rw [answered, answered, List.length_append, List.length_append]
          rcases hturn : r.turn env with ⟨_ | ending, r'⟩
          · rw [hturn] at h
            have hrest := ih h more
            dsimp only
            omega
          · exact Nat.le_refl _

/-- **A reading ends in time** if the words answered are bounded. -/
theorem run_isSome_of_answered {most : Nat}
    (h : ∀ turns, (r.answered env turns).length ≤ most) :
    (run env (r.unread.length + most + 1) r).isSome = true := by
  cases hrun : run env (r.unread.length + most + 1) r with
  | some _ => rfl
  | none =>
      have hturns := turns_le_of_run_eq_none hrun
      have hbound := h (r.unread.length + most + 1)
      omega

/-- **A reading ends exactly if** the words answered in it are bounded. -/
theorem exists_run_iff : (∃ turns, (run env turns r).isSome = true) ↔
    ∃ most, ∀ turns, (r.answered env turns).length ≤ most := by
  constructor
  · rintro ⟨turns, hrun⟩
    exact ⟨_, length_answered_le_of_run hrun⟩
  · rintro ⟨most, hmost⟩
    exact ⟨_, run_isSome_of_answered hmost⟩

end Reading

/-! ## Cutting off -/

/-- To leave out what is in front is to cut it off, with nothing in its place. -/
theorem cutExpand_drop {α : Type} {R : α → α → Prop} (n : Nat) (l : List α) :
    ReflTransGen (CutExpand R) (l.drop n : Multiset α) l := by
  induction n generalizing l with
  | zero => exact .refl
  | succ n ih =>
      cases l with
      | nil => exact .refl
      | cons a rest =>
          refine (ih rest).tail ⟨0, a, nofun, ?_⟩
          rw [add_zero, ← Multiset.cons_coe, ← Multiset.singleton_add, add_comm]

/-- What is left of a relation where it does not go down for ever is well-founded. -/
theorem wellFounded_of_acc {α : Type} (R : α → α → Prop) :
    WellFounded fun b a => R b a ∧ Acc R a := by
  refine ⟨fun a => ?_⟩
  by_cases hacc : Acc R a
  · induction hacc with
    | intro a _ ih => exact ⟨a, fun b hb => ih b hb.1⟩
  · exact ⟨a, fun b hb => absurd hb.2 hacc⟩

/-! ## Arguments that do not lead back to themselves -/

/-- **A word that the tool may answer** to an argument, whatever program is run for it. -/
def Environment.MayAnswer (env : Environment) (word arg : String) : Prop :=
  ∃ behind written program leading words,
    Meaning.ofOption arg behind = .colon .packages written ∧
      (PackageTool.expand env.packageTool program leading written.value).1 = .ok words ∧ word ∈ words

namespace Meaning

/-- An option is read as one only while options are read. -/
theorem ofOption_of_ofArgument {optionsOpen : Bool} {arg : String} {behind : List String}
    {o : ColonOption} {written : ColonArgument}
    (h : ofArgument optionsOpen arg behind = colon o written) :
    ofOption arg behind = colon o written := by
  unfold ofArgument at h
  split at h
  · cases h
  · split at h
    · cases h
    · split at h
      · exact h
      · cases h

end Meaning

namespace Reading

variable {r r' : Reading}

/-- What is added by a turn may be answered to the argument that it reads. -/
theorem mayAnswer_of_turn (h : r.turn env = (none, r')) :
    ∃ arg rest taken, r.unread = arg :: rest ∧
      r'.unread.Perm (rest.drop taken ++ r.answer env) ∧
      ∀ word ∈ r.answer env, env.MayAnswer word arg := by
  obtain ⟨arg, rest, meaning, hunread, hread, hanswer, hleft⟩ := unread_of_turn h
  refine ⟨arg, rest, meaning.taken, hunread, ?_, fun word mem => ?_⟩
  · rw [hleft]
    exact ResponseFile.spliceBeforeSeparator_perm _ _
  · rw [hanswer] at mem
    obtain ⟨written, words, hmeaning, hwords, hword⟩ := Meaning.exists_of_mem_answer mem
    rw [hmeaning] at hread
    exact ⟨rest, written, _, _, words, Meaning.ofOption_of_ofArgument hread.symm, hwords, hword⟩

/-- **A turn cuts off an argument** and puts in its place what may be answered to it. -/
theorem cutExpand_of_turn {R : String → String → Prop}
    (hR : ∀ arg ∈ r.unread, ∀ word, env.MayAnswer word arg → R word arg)
    (h : r.turn env = (none, r')) :
    TransGen (CutExpand R) (r'.unread : Multiset String) r.unread := by
  obtain ⟨arg, rest, taken, hunread, hleft, hanswer⟩ := mayAnswer_of_turn h
  have mem : arg ∈ r.unread := by
    rw [hunread]
    exact List.mem_cons_self
  have hcut : CutExpand R ((rest : Multiset String) + (r.answer env : Multiset String))
      r.unread := by
    refine ⟨r.answer env, arg,
      fun word hword => hR arg mem word (hanswer word (Multiset.mem_coe.mp hword)), ?_⟩
    rw [hunread, ← Multiset.cons_coe, ← Multiset.singleton_add, add_comm _ ({arg} : Multiset String),
      add_assoc]
  have hdrop : ReflTransGen (CutExpand R)
      ((rest.drop taken : Multiset String) + (r.answer env : Multiset String))
      ((rest : Multiset String) + (r.answer env : Multiset String)) :=
    (cutExpand_drop taken rest).lift (· + (r.answer env : Multiset String)) fun _ _ hstep =>
      (Relation.cutExpand_add_right _).mpr hstep
  have hsame : (r'.unread : Multiset String) =
      (rest.drop taken : Multiset String) + (r.answer env : Multiset String) := by
    rw [Multiset.coe_add]
    exact Multiset.coe_eq_coe.mpr hleft
  rw [hsame]
  exact .tail' hdrop hcut

/-- **Arguments that do not lead back to themselves**, by what the tool may answer, are read to the
end. -/
theorem exists_run_of_acc (hacc : ∀ arg ∈ r.unread, Acc env.MayAnswer arg) :
    ∃ turns, (run env turns r).isSome = true := by
  -- The arguments that are unread grow smaller as a multiset: one goes, and what comes is below it.
  have hwf := (wellFounded_of_acc env.MayAnswer).cutExpand.transGen
  generalize hsize : (r.unread : Multiset String) = size
  induction size using hwf.induction generalizing r with
  | _ size ih =>
      subst hsize
      rcases hturn : r.turn env with ⟨_ | ending, r'⟩
      · have hsmaller := cutExpand_of_turn
          (R := fun word arg => env.MayAnswer word arg ∧ Acc env.MayAnswer arg)
          (fun arg mem word hword => ⟨hword, hacc arg mem⟩) hturn
        have hacc' : ∀ arg ∈ r'.unread, Acc env.MayAnswer arg := by
          obtain ⟨arg, rest, taken, hunread, hleft, hanswer⟩ := mayAnswer_of_turn hturn
          rw [hunread] at hacc
          intro word mem
          obtain mem | mem := List.mem_append.mp (hleft.mem_iff.mp mem)
          · exact hacc word (List.mem_cons_of_mem _ (List.mem_of_mem_drop mem))
          · exact (hacc arg List.mem_cons_self).inv (hanswer word mem)
        obtain ⟨turns, hrun⟩ := ih _ hsmaller hacc' rfl
        exact ⟨turns + 1, by rw [run, hturn]; exact hrun⟩
      · exact ⟨1, by rw [run, hturn]; rfl⟩

end Reading

/-! ## Command lines -/

namespace CommandLine

/-- **The reading of a command line at its start**, on top of a configuration; there is nothing to read
if the response files are not to be had. -/
def begun (env : Environment) (config : Config) (desk : Desk) (args : List String) : Reading :=
  let expansion := ResponseFile.expand env.files config.responseFiles args
  start config desk expansion (expansion.result.toOption.getD [])

variable {config : Config} {desk : Desk} {args : List String}

/-- A command line is read in so many turns, or ends with its response files. -/
theorem parse_isSome_iff {turns : Nat} :
    (parse env turns config desk args).isSome = true ↔
      (Reading.run env turns (begun env config desk args)).isSome = true ∨
        (ResponseFile.expand env.files config.responseFiles args).result.toOption = none := by
  unfold parse begun
  dsimp only
  cases (ResponseFile.expand env.files config.responseFiles args).result with
  | error problem => simp [Except.toOption]
  | ok expanded => simp [Except.toOption]

/-- A command line that has nothing to read is read in a turn. -/
theorem run_begun_of_none
    (h : (ResponseFile.expand env.files config.responseFiles args).result.toOption = none) :
    (Reading.run env 1 (begun env config desk args)).isSome = true := by
  have hunread : (begun env config desk args).unread = [] := by
    unfold begun
    dsimp only
    rw [h]
    rfl
  rw [Reading.run, Reading.turn_nil hunread]
  rfl

/-- **When a command line is read to its end.**  It is, exactly if the words that the package tool
answers meanwhile are bounded, and then it takes no more turns than there are arguments and words, and
one; and it is, if no argument leads back to itself by what the tool may answer. -/
theorem parse_ends (env : Environment) (config : Config) (desk : Desk) (args : List String) :
    ((∃ turns, (parse env turns config desk args).isSome = true) ↔
        ∃ most, ∀ turns, ((begun env config desk args).answered env turns).length ≤ most) ∧
      (∀ most, (∀ turns, ((begun env config desk args).answered env turns).length ≤ most) →
        (parse env ((begun env config desk args).unread.length + most + 1) config desk
          args).isSome = true) ∧
      ((∀ arg ∈ (begun env config desk args).unread, Acc env.MayAnswer arg) →
        ∃ turns, (parse env turns config desk args).isSome = true) := by
  have hparse (h : ∃ turns, (Reading.run env turns (begun env config desk args)).isSome = true) :
      ∃ turns, (parse env turns config desk args).isSome = true :=
    h.imp fun _ hrun => parse_isSome_iff.mpr (.inl hrun)
  refine ⟨⟨?_, fun hmost => hparse (Reading.exists_run_iff.mpr hmost)⟩,
    fun most hmost => parse_isSome_iff.mpr (.inl (Reading.run_isSome_of_answered hmost)),
    fun hacc => hparse (Reading.exists_run_of_acc hacc)⟩
  rintro ⟨turns, hsome⟩
  refine Reading.exists_run_iff.mp ?_
  obtain hrun | hnone := parse_isSome_iff.mp hsome
  · exact ⟨turns, hrun⟩
  · exact ⟨1, run_begun_of_none hnone⟩

/-- An environment in which the tool answers a package option for one package, and a source file for any
other. -/
def chained : Environment where
  files := ⟨[], ⟨[]⟩⟩
  packageTool := fun _ args =>
    .ended true (Text.Utf8.encode (if args.getLast? = some "a" then "-pkg:b" else "x.cs")) ""

/-- What the tool answers there, whatever program is run. -/
theorem mayAnswer_chained {word answer : String} (packages : String)
    (hentries : Text.entries packages = [packages])
    (hanswer : Text.words (Text.Utf8.decode (Text.Utf8.encode
      (if packages = "a" then "-pkg:b" else "x.cs"))) = [answer])
    (h : chained.MayAnswer word ("-pkg:" ++ packages)) : word = answer := by
  obtain ⟨behind, written, program, leading, words, hmeaning, hwords, mem⟩ := h
  rw [Meaning.ofOption_of_ofArgument (Meaning.ofArgument_pkg packages behind)] at hmeaning
  cases hmeaning
  have hended : chained.packageTool program
      (PackageTool.arguments leading (Text.entries packages)) =
        .ended true (Text.Utf8.encode (if packages = "a" then "-pkg:b" else "x.cs")) "" := by
    rw [hentries]
    simp [chained, PackageTool.arguments]
  rw [PackageTool.expand_of_ended hended, hanswer] at hwords
  cases hwords
  exact List.mem_singleton.mp mem

/-- A package that asks for another one, which asks for a source file. -/
theorem parse_ends_chained :
    (∀ arg ∈ (begun chained {} {} ["-pkg:a"]).unread, Acc chained.MayAnswer arg) ∧
      ∃ turns, (parse chained turns {} {} ["-pkg:a"]).isSome = true := by
  have hsource : Acc chained.MayAnswer "x.cs" := by
    refine ⟨_, fun word h => ?_⟩
    obtain ⟨behind, written, -, -, -, hmeaning, -⟩ := h
    cases hmeaning
  have hsecond : Acc chained.MayAnswer "-pkg:b" := by
    refine ⟨_, fun word h => ?_⟩
    obtain rfl : word = "x.cs" :=
      mayAnswer_chained "b" (by decide) (by decide +kernel) h
    exact hsource
  have hfirst : Acc chained.MayAnswer "-pkg:a" := by
    refine ⟨_, fun word h => ?_⟩
    obtain rfl : word = "-pkg:b" :=
      mayAnswer_chained "a" (by decide) (by decide +kernel) h
    exact hsecond
  have hacc : ∀ arg ∈ (begun chained {} {} ["-pkg:a"]).unread, Acc chained.MayAnswer arg := by
    have hunread : (begun chained {} {} ["-pkg:a"]).unread = ["-pkg:a"] := by
      unfold begun
      rw [ResponseFile.expand_of_plain (by decide)]
      rfl
    rw [hunread]
    intro arg mem
    rw [List.mem_singleton.mp mem]
    exact hfirst
  exact ⟨hacc, (parse_ends chained {} {} ["-pkg:a"]).2.2 hacc⟩

/-- An environment in which the tool answers a package option, the same each time. -/
def circular : Environment where
  files := ⟨[], ⟨[]⟩⟩
  packageTool := fun _ _ => .ended true (Text.Utf8.encode "-pkg:a") ""

/-- A package that asks for itself is asked for again and again. -/
theorem run_circular {r : Reading} (hopen : r.optionsOpen = true) (hrequest : r.request = none)
    (hunread : r.unread = ["-pkg:" ++ "a"]) (turns : Nat) : Reading.run circular turns r = none := by
  have hanswer (program : Path) (leading : List String) :
      (PackageTool.expand circular.packageTool program leading "a").1 = .ok ["-pkg:a"] := by
    have hwords : Text.words (Text.Utf8.decode (Text.Utf8.encode "-pkg:a")) = ["-pkg:a"] := by
      decide +kernel
    rw [PackageTool.expand_of_ended rfl, hwords]
  induction turns generalizing r with
  | zero => rfl
  | succ turns ih =>
      rw [Reading.run, Reading.turn_packages hopen hrequest hunread ⟨by decide, hanswer _ _⟩]
      exact ih hopen hrequest rfl

/-- **A command line that is read for ever**: what the tool answers for a package asks for it again. -/
theorem parse_circular :
    (∀ program args,
        circular.packageTool program args = .ended true (Text.Utf8.encode "-pkg:a") "") ∧
      ∀ turns, parse circular turns {} {} ["a.cs", "-pkg:a"] = none := by
  refine ⟨fun _ _ => rfl, fun turns => ?_⟩
  unfold parse
  dsimp only
  rw [ResponseFile.expand_of_plain (by decide)]
  dsimp only
  cases turns with
  | zero => rfl
  | succ turns =>
      let first := start {} {} ⟨.ok ["a.cs", "-pkg:a"], [], []⟩ ["a.cs", "-pkg:a"]
      show Reading.run circular (turns + 1) first = none
      -- The source file is read in one turn, and what is left goes round.
      have hnext : first.turn circular = (none, (first.turn circular).2) :=
        Prod.ext (by decide +kernel) rfl
      rw [Reading.run, hnext]
      exact run_circular (by decide +kernel) (by decide +kernel) (by decide +kernel) turns

end CommandLine

end BatchCompiler

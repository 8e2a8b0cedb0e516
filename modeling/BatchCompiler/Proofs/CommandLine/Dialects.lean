import BatchCompiler.Proofs.CommandLine.Alike
import BatchCompiler.Proofs.CommandLine.Spelling
import BatchCompiler.Proofs.CommandLine.Symbols

/-!
# The two dialects

Most deprecated options have a counterpart among the colon options that does the same, with the value
behind the colon instead of in an argument of its own.  What is left of the difference is the warning
that the option is deprecated, which is reported first.

## Main definitions

* `LegacyOption.counterpart?` — the colon option that does the same, and its name
* `LegacyOption.written`, `LegacyOption.rewritten` — an option with its value in either dialect
* `Reading.SameButFor` — two turns that end alike, but for one report

## Main statements

* `LegacyOption.apply_counterpart` — both options do the same
* `Reading.turn_written` — the dialects agree
-/

namespace BatchCompiler

namespace LegacyOption

/-- **The colon option that does the same**, and a name of it. -/
def counterpart? : LegacyOption → Option (ColonOption × String)
  | .mainClass => some (.mainClass, "main")
  | .output => some (.out, "out")
  | .target => some (.target, "target")
  | .warningLevel => some (.warningLevel, "warn")
  | .recurse => some (.recurse, "recurse")
  | .reference => some (.reference, "reference")
  | .libraryPath => some (.libraryPath, "lib")
  | .unsafeCode => some (.unsafeCode, "unsafe")
  | .checked => some (.checked, "checked")
  | .noStandardLibrary => some (.noStandardLibrary, "nostdlib")
  | .warningsAsErrors => some (.warningsAsErrors, "warnaserror")
  | .debug => some (.debug, "debug")
  | .noConfig => some (.noConfig, "noconfig")
  | _ => none

/-- **An option as it is written**: its spelling, then its value if it takes one. -/
def written (o : LegacyOption) (spelling value : String) : List String :=
  if o.takesValue then [spelling, value] else [spelling]

/-- **The same in the other dialect**, under some name: the value stands behind a colon. -/
def rewritten (o : LegacyOption) (name value : String) : String :=
  "-" ++ name ++ if o.takesValue then ":" ++ value else ""

/-- **A value that suits both dialects**: none where the option takes none, else one that is not empty;
where the other dialect reads a list, it is a list of one. -/
def Suits (o : LegacyOption) (value : String) : Prop :=
  if o.takesValue then
    value ≠ "" ∧
      (o = .reference ∨ o = .libraryPath → ∀ c ∈ value.toList, Text.isListMark c = false)
  else value = ""

variable {env : Environment} {o : LegacyOption} {counterpart : ColonOption} {name value : String}

/-! ## What the tables say -/

theorem mem_all (o : LegacyOption) : o ∈ all := by
  cases o <;> decide

/-- **A spelling in the table** is found as the option it is a spelling of. -/
theorem find?_of_mem_names {spelling : String} (h : spelling ∈ o.names) :
    find? spelling = some o := by
  have htable : ∀ o ∈ all, ∀ spelling ∈ o.names, find? spelling = some o := by decide
  exact htable o o.mem_all spelling h

/-- **The name of a counterpart** is found, and is no legacy option with a dash in front. -/
theorem find?_counterpart (h : o.counterpart? = some (counterpart, name)) :
    ColonOption.find? (Text.lowerCase name) = some (counterpart, true) ∧
      find? ("-" ++ name) = none := by
  have htable : ∀ found ∈ all.filterMap counterpart?,
      ColonOption.find? (Text.lowerCase found.2) = some (found.1, true) ∧
        find? ("-" ++ found.2) = none := by
    decide +kernel
  have mem : (counterpart, name) ∈ all.filterMap counterpart? :=
    List.mem_filterMap.mpr ⟨o, o.mem_all, h⟩
  exact htable (counterpart, name) mem

/-- Whatever has a counterpart is deprecated. -/
theorem exists_replacement (h : o.counterpart? = some (counterpart, name)) :
    ∃ hint, o.replacement? = some hint := by
  have htable : ∀ o ∈ all, o.counterpart?.isSome → o.replacement?.isSome := by decide
  exact Option.isSome_iff_exists.mp (htable o o.mem_all (by rw [h]; rfl))

/-! ## What the options do -/

/-- A text without a mark is the one entry of a list. -/
theorem entries_of_not (hvalue : value ≠ "") (h : ∀ c ∈ value.toList, Text.isListMark c = false) :
    Text.entries value = [value] := by
  unfold Text.entries
  rw [Text.pieces_of_not h]
  simpa using hvalue

/-- **Both options do the same**, with a value that suits both dialects. -/
theorem apply_counterpart (h : o.counterpart? = some (counterpart, name)) (hsuits : o.Suits value)
    (spelling option : String) :
    o.apply env spelling value = counterpart.apply env ⟨option, value, true⟩ := by
  cases o with
  | mainClass | output | warningLevel | recurse =>
      cases h
      have hvalue : value ≠ "" := hsuits.1
      rw [apply, ColonOption.apply, ColonOption.required, ColonOption.requiredOr_bind_of_ne hvalue]
  | reference =>
      cases h
      obtain ⟨hvalue, hone⟩ : value ≠ "" ∧ _ := hsuits
      rw [apply, ColonOption.apply, ColonOption.required, ColonOption.requiredOr_bind_of_ne hvalue,
        entries_of_not hvalue (hone (.inl rfl))]
      rfl
  | libraryPath =>
      cases h
      obtain ⟨hvalue, hone⟩ : value ≠ "" ∧ _ := hsuits
      rw [apply, ColonOption.apply, ColonOption.required, ColonOption.requiredOr_bind_of_ne hvalue,
        entries_of_not hvalue (hone (.inr rfl))]
      rfl
  | target | unsafeCode | checked | warningsAsErrors | debug =>
      cases h
      rw [apply, ColonOption.apply]
  | noStandardLibrary | noConfig =>
      cases h
      rw [apply, ColonOption.apply]
      rfl
  | verbose | version | parseOnly | help | define | tokenizeOnly | fatal | stackTrace
  | linkResource | embedResource | ignoreWarning | debugLevel | about | timestamps | expectError =>
      cases h

end LegacyOption

/-! ## Turns -/

namespace Reading

/-- **Two turns come to the same, but for a report** that only the first of them takes in, ahead of all
others; `e` is the engine that they start with. -/
structure SameButFor (e : Engine) (report : Report) (x y : Option Ending × Reading) : Prop where
  ending : x.1 = y.1
  config : x.2.config = y.2.config
  policy : x.2.desk.engine.policy = y.2.desk.engine.policy
  unread : x.2.unread = y.2.unread
  optionsOpen : x.2.optionsOpen = y.2.optionsOpen
  request : x.2.request = y.2.request
  diagnostics : ∃ more,
    x.2.desk.engine.diagnostics = e.diagnostics ++ (e.policy.kept? report).toList ++ more ∧
      y.2.desk.engine.diagnostics = e.diagnostics ++ more

variable {env : Environment} {r : Reading} {rest : List String}

/-- **What is done to a reading** ends in the same way whether a report was taken in first or not. -/
theorem sameButFor_conclude_perform (report : Report) {m : Handler Unit} (hm : Handler.Unaware m) :
    SameButFor r.desk.engine report
      (conclude (perform m { r with desk := r.desk.take (.report report) }).1
        (perform m { r with desk := r.desk.take (.report report) }).2)
      (conclude (perform m r).1 (perform m r).2) := by
  -- Once the report is taken in, the two records differ by it and by nothing that comes later.
  have hstart : Alike
      (Engine.RecordAlike
        (r.desk.engine.diagnostics ++ (r.desk.engine.policy.kept? report).toList)
        r.desk.engine.diagnostics)
      { r with desk := r.desk.take (.report report) } r :=
    { config := rfl
      unread := rfl
      optionsOpen := rfl
      request := rfl
      engine := ⟨r.desk.engine.submit_policy report, [], by
        rw [List.append_nil]
        exact r.desk.engine.submit_diagnostics report, (List.append_nil _).symm⟩ }
  obtain ⟨hending, hend⟩ :=
    alike_conclude_perform (hm (fun _ => Engine.likeness_recordAlike _ _)) hstart
  exact
    { ending := hending
      config := hend.config
      policy := hend.engine.policy
      unread := hend.unread
      optionsOpen := hend.optionsOpen
      request := hend.request
      diagnostics := hend.engine.diagnostics }

variable {o : LegacyOption} {counterpart : ColonOption} {name spelling value : String}

/-- An option in the older dialect: the warning, then what the option does. -/
theorem turn_legacy {hint : String} (hhint : o.replacement? = some hint)
    (hspelled : spelling ∈ o.names) (hsuits : o.Suits value) (hopen : r.optionsOpen = true)
    (hunread : r.unread = o.written spelling value ++ rest) :
    turn env r =
      conclude
        (perform (o.apply env spelling value) { r with
          desk := r.desk.take (LegacyOption.deprecation spelling hint), unread := rest }).1
        (perform (o.apply env spelling value) { r with
          desk := r.desk.take (LegacyOption.deprecation spelling hint), unread := rest }).2 := by
  have hread (behind : List String) :
      Meaning.ofArgument r.optionsOpen spelling behind = Meaning.ofLegacy o behind := by
    rw [hopen]
    exact Meaning.ofArgument_of_legacy (LegacyOption.find?_of_mem_names hspelled)
  have hperform : perform ((Meaning.legacy o value).handler env spelling) { r with unread := rest } =
      perform (o.apply env spelling value) { r with
        desk := r.desk.take (LegacyOption.deprecation spelling hint), unread := rest } := by
    unfold Meaning.handler
    rw [Meaning.perform_tell_bind, hhint]
    rfl
  unfold LegacyOption.Suits at hsuits
  unfold LegacyOption.written at hunread
  rw [← hperform]
  cases htakes : o.takesValue with
  | true =>
      rw [htakes, if_pos rfl] at hunread
      have hmeaning : Meaning.ofArgument r.optionsOpen spelling (value :: rest) = .legacy o value := by
        rw [hread, Meaning.ofLegacy, if_pos htakes]
        rfl
      exact turn_of_meaning hunread hmeaning (by rw [Meaning.taken, if_pos htakes]; rfl)
  | false =>
      rw [htakes, if_neg Bool.false_ne_true] at hsuits hunread
      subst hsuits
      have hmeaning : Meaning.ofArgument r.optionsOpen spelling rest = .legacy o "" := by
        rw [hread, Meaning.ofLegacy, htakes, if_neg Bool.false_ne_true]
      exact turn_of_meaning hunread hmeaning (by rw [Meaning.taken, htakes]; rfl)

/-- The same option in the other dialect. -/
theorem turn_rewritten (h : o.counterpart? = some (counterpart, name)) (hsuits : o.Suits value)
    (hopen : r.optionsOpen = true) (hunread : r.unread = o.rewritten name value :: rest) :
    turn env r =
      conclude
        (perform (counterpart.apply env ⟨"/" ++ name, value, true⟩) { r with unread := rest }).1
        (perform (counterpart.apply env ⟨"/" ++ name, value, true⟩) { r with unread := rest }).2 := by
  obtain ⟨hfound, hlegacy⟩ := LegacyOption.find?_counterpart h
  have hmeaning : Meaning.ofArgument r.optionsOpen (o.rewritten name value) rest =
      .colon counterpart ⟨"/" ++ name, value, true⟩ := by
    rw [hopen]
    unfold LegacyOption.Suits at hsuits
    unfold LegacyOption.rewritten
    cases htakes : o.takesValue with
    | true =>
        rw [if_pos rfl]
        refine Meaning.ofArgument_of_found (.inl rfl) hfound (.inr rfl) ?_
        exact LegacyOption.find?_of_colon (by simp)
    | false =>
        rw [htakes, if_neg Bool.false_ne_true] at hsuits
        rw [if_neg Bool.false_ne_true]
        refine Meaning.ofArgument_of_found (.inl rfl) hfound (.inl ⟨rfl, hsuits⟩) ?_
        rwa [String.append_empty]
  exact turn_of_meaning hunread hmeaning rfl

/-- **The dialects agree.**  While options are read, an option with its value does in the older dialect
what it does in the other one once the warning that it is deprecated is taken in; and with and without
the warning the turn comes to the same, whatever the value, but for the warning. -/
theorem turn_written (h : o.counterpart? = some (counterpart, name)) (hspelled : spelling ∈ o.names)
    (hsuits : o.Suits value) (hopen : r.optionsOpen = true) (env : Environment)
    (rest : List String) :
    ∃ hint, o.replacement? = some hint ∧
      let warning : Report :=
        .warning (-29) 1 ("Compatibility: Use " ++ hint ++ " instead of " ++ spelling)
      turn env { r with unread := o.written spelling value ++ rest } =
          turn env { r with
            desk := r.desk.take (.report warning), unread := o.rewritten name value :: rest } ∧
        SameButFor r.desk.engine warning
          (turn env { r with unread := o.written spelling value ++ rest })
          (turn env { r with unread := o.rewritten name value :: rest }) := by
  obtain ⟨hint, hhint⟩ := LegacyOption.exists_replacement h
  refine ⟨hint, hhint, ?_⟩
  intro warning
  have holder : turn env { r with unread := o.written spelling value ++ rest } = _ :=
    turn_legacy hhint hspelled hsuits hopen rfl
  have hother : turn env { r with unread := o.rewritten name value :: rest } = _ :=
    turn_rewritten h hsuits hopen rfl
  have hwarned : turn env { r with
      desk := r.desk.take (.report warning), unread := o.rewritten name value :: rest } = _ :=
    turn_rewritten h hsuits hopen rfl
  rw [LegacyOption.apply_counterpart h hsuits spelling ("/" ++ name)] at holder
  constructor
  · exact holder.trans hwarned.symm
  · rw [holder, hother]
    exact sameButFor_conclude_perform (r := { r with unread := rest }) (.warning (-29) 1 _)
      (ColonOption.does_apply _ counterpart).unaware

/-- A directory whose name has a colon, an equals sign and a blank. -/
theorem turn_written_libraryPath :
    let warning : Report := .warning (-29) 1 "Compatibility: Use -lib:PATH instead of -L"
    LegacyOption.libraryPath.Suits "c:lib=a b" ∧
      turn CommandLine.bare { unread := ["-L", "c:lib=a b", "a.cs"] } =
          turn CommandLine.bare
            { desk := ({} : Desk).take (.report warning), unread := ["-lib:c:lib=a b", "a.cs"] } ∧
        SameButFor {} warning (turn CommandLine.bare { unread := ["-L", "c:lib=a b", "a.cs"] })
          (turn CommandLine.bare { unread := ["-lib:c:lib=a b", "a.cs"] }) := by
  have hsuits : LegacyOption.libraryPath.Suits "c:lib=a b" :=
    ⟨by decide, fun _ => by simp [Text.isListMark]⟩
  have hspelled : "-L" ∈ LegacyOption.libraryPath.names := by decide
  obtain ⟨hint, hhint, hsame⟩ :=
    turn_written (r := {}) rfl hspelled hsuits rfl CommandLine.bare ["a.cs"]
  cases hhint
  have htext : "Compatibility: Use " ++ "-lib:PATH" ++ " instead of " ++ "-L" =
      "Compatibility: Use -lib:PATH instead of -L" := by
    decide
  have hother : LegacyOption.libraryPath.rewritten "lib" "c:lib=a b" = "-lib:c:lib=a b" := by decide
  dsimp only at hsame
  rw [htext, hother] at hsame
  exact ⟨hsuits, hsame⟩

end Reading

end BatchCompiler

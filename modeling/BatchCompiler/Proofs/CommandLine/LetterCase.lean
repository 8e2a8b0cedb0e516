import BatchCompiler.Proofs.CommandLine.Alike
import BatchCompiler.Proofs.CommandLine.Spelling
import BatchCompiler.Proofs.CommandLine.Symbols

/-!
# Marks and letter case

A colon option may have either mark, and capitals in its name do not matter.  That is not plain from
the table, since an option is handed on as it was written: some quote it when they fail, and resource
options look at a letter of it.

## Main definitions

* `ArgumentError.Requoted`, `Diagnostic.Requoted` — an error, a diagnostic that quotes one text or
  another
* `Reading.Requoted` — what comes of an option, whichever way it is written

## Main statements

* `ColonOption.quotes` — the ways in which an option may quote itself
* `Reading.requoted_dispatch` — marks and letter case do not matter
-/

namespace BatchCompiler

/-! ## Quoting one text or another -/

/-- **Two errors that are the same**, but that one may quote an option where the other quotes another. -/
inductive ArgumentError.Requoted (option option' : String) : ArgumentError → ArgumentError → Prop where
  | same (problem : ArgumentError) : Requoted option option' problem problem
  | missingArgument (code : Int) :
      Requoted option option' (.missingArgument option code) (.missingArgument option' code)

/-- **Two diagnostics that are the same**, but that one may quote an option where the other quotes
another. -/
inductive Diagnostic.Requoted (option option' : String) : Diagnostic → Diagnostic → Prop where
  | same (d : Diagnostic) : Requoted option option' d d
  | quoting (severity : Severity) (code : Int) (before after : String)
      (location : Option SourceLocation) :
      Requoted option option' ⟨severity, code, before ++ option ++ after, location⟩
        ⟨severity, code, before ++ option' ++ after, location⟩

/-- **Two answers that are the same**, but that the errors may quote different options. -/
inductive Handler.Requoted (option option' : String) :
    Except ArgumentError Unit → Except ArgumentError Unit → Prop where
  | ok : Requoted option option' (.ok ()) (.ok ())
  | error {problem problem' : ArgumentError} (h : problem.Requoted option option' problem') :
      Requoted option option' (.error problem) (.error problem')

namespace Reading

/-- A reading with another record of diagnostics, and all else as it is. -/
def withRecord (r : Reading) (ds : List Diagnostic) : Reading :=
  { r with desk := { r.desk with engine := { r.desk.engine with diagnostics := ds } } }

/-- **What comes of a reading that is read on in one way or in another**: the same, but that what was
recorded meanwhile, and the error that ended it, may quote different options. -/
structure Requoted (option option' : String) (r : Reading)
    (x y : Except ArgumentError Unit × Reading) : Prop where
  answer : Handler.Requoted option option' x.1 y.1
  /-- The configuration, the reporting policy and the counts, what is unread, whether options are read,
  the request and the transcript. -/
  reading : x.2.withRecord [] = y.2.withRecord []
  diagnostics : ∃ more more',
    x.2.desk.engine.diagnostics = r.desk.engine.diagnostics ++ more ∧
      y.2.desk.engine.diagnostics = r.desk.engine.diagnostics ++ more' ∧
      List.Forall₂ (Diagnostic.Requoted option option') more more'

end Reading

/-! ## Options -/

variable {env : Environment}

/-- The letter that tells embedding from linking may be small or not. -/
theorem ColonOption.asksToEmbed_slash {name name' : String} (h : Text.SameButCase name name') :
    asksToEmbed ("/" ++ name) = asksToEmbed ("/" ++ name') := by
  have hletter (c : Char) : (c = 'r' || c = 'R') = decide (c.toLower = 'r') := by
    have htable : ∀ n < 123, (Char.ofNat n).toLower = 'r' →
        Char.ofNat n = 'r' ∨ Char.ofNat n = 'R' := by
      decide +kernel
    rw [← Bool.decide_or]
    refine decide_eq_decide.mpr ⟨?_, fun hsmall => ?_⟩
    · rintro (rfl | rfl)
      · rfl
      · rfl
    · obtain rfl | ⟨hc, -⟩ := Text.eq_or_isAlpha_of_toLower (d := 'r') hsmall
      · exact .inl rfl
      · have hrange := Text.toNat_of_isAlpha hc
        simpa using htable c.toNat (by omega) (by simpa using hsmall)
  have hsecond (name : String) : asksToEmbed ("/" ++ name) =
      ((name.toList.map Char.toLower).head?.map fun c => decide (c = 'r')).getD false := by
    unfold asksToEmbed
    rw [String.toList_append]
    cases name.toList with
    | nil => rfl
    | cons c rest => exact hletter c
  rw [hsecond, hsecond, h]

/-- A value of a resource option is understood, or has a wrong number of parts, whatever the option. -/
theorem ResourceSpec.parse_cases (value : String) :
    (∀ option option', parse option value = parse option' value) ∨
      ∀ option, parse option value =
        (none, [.error (-2005) ("Wrong number of arguments for option `" ++ option ++ "'")]) := by
  unfold parse
  split
  · exact .inl fun _ _ => rfl
  · exact .inl fun _ _ => rfl
  · exact .inl fun _ _ => rfl
  · exact .inr fun _ => rfl

namespace ColonOption

/-- **The ways in which an option may quote itself**, as it is written with some value. -/
inductive Quotes (env : Environment) (value : String) (enabled : Bool) (o : ColonOption) : Prop where
  /-- It does not; a resource option looks at one letter. -/
  | nowhere (h : ∀ option option', asksToEmbed option = asksToEmbed option' →
      o.apply env ⟨option, value, enabled⟩ = o.apply env ⟨option', value, enabled⟩)
  /-- The error that the value is missing. -/
  | missing (code : Int) (h : ∀ option,
      o.apply env ⟨option, value, enabled⟩ = throw (.missingArgument option code))
  /-- The report that the value of a resource option has a wrong number of parts. -/
  | wrongNumber (h : ∀ option, o.apply env ⟨option, value, enabled⟩ = Handler.tell
      [.error (-2005) ("Wrong number of arguments for option `" ++ option ++ "'")])

variable {o : ColonOption} {value : String} {enabled : Bool}

/-- An option that does not look at how it is written. -/
theorem quotes_of_same (h : ∀ option option',
    o.apply env ⟨option, value, enabled⟩ = o.apply env ⟨option', value, enabled⟩) :
    Quotes env value enabled o :=
  .nowhere fun option option' _ => h option option'

/-- An option that needs a value, and does not look at how it is written if it has one. -/
theorem quotes_of_required (code : Int) (f : String → Handler Unit)
    (h : ∀ option, o.apply env ⟨option, value, enabled⟩ =
      requiredOr code ⟨option, value, enabled⟩ >>= f) : Quotes env value enabled o := by
  by_cases hvalue : value = ""
  · refine .missing code fun option => ?_
    rw [h, requiredOr_bind_of_empty hvalue]
  · refine quotes_of_same fun option option' => ?_
    rw [h, h, requiredOr_bind_of_ne hvalue, requiredOr_bind_of_ne hvalue]

/-- **Every option** quotes itself in one of these ways, or not at all. -/
theorem quotes (o : ColonOption) (value : String) (enabled : Bool) : Quotes env value enabled o := by
  cases o with
  | resource =>
      -- The one option that looks at how it is written, and the one that has two ways to quote it.
      by_cases hvalue : value = ""
      · refine .missing 5 fun option => ?_
        rw [apply, required, requiredOr_bind_of_empty hvalue]
      · obtain hparse | hparse := ResourceSpec.parse_cases value
        · refine .nowhere fun option option' hembeds => ?_
          rw [apply, apply, required, required, requiredOr_bind_of_ne hvalue,
            requiredOr_bind_of_ne hvalue, hparse option option', hembeds]
        · refine .wrongNumber fun option => ?_
          rw [apply, required, requiredOr_bind_of_ne hvalue, hparse]
          rfl
  | documentation => exact quotes_of_required 2006 _ fun _ => rfl
  | out | define | packages | recurse | reference | addModule | nativeResource | icon | libraryPath
  | warningLevel | ignoreWarnings | mainClass | keyFile | keyContainer =>
      exact quotes_of_required 5 _ fun _ => rfl
  | accepted | incremental | bugReport | target | optimize | debug | checked | clsCheck | unsafeCode
  | warningsAsErrors | noConfig | internalHelp | help | noStandardLibrary | delaySign
  | languageVersion | codePage => exact quotes_of_same fun _ _ => rfl

end ColonOption

/-! ## Readings -/

namespace Reading

variable {option option' : String} {r : Reading}

/-- What comes of one and the same way to be read on. -/
theorem requoted_same (option option' : String) {m : Handler Unit} (hm : Handler.Unaware m)
    (r : Reading) : Requoted option option' r (perform m r) (perform m r) where
  answer := by
    rcases (perform m r).1 with problem | ⟨⟩
    · exact .error (.same problem)
    · exact .ok
  reading := rfl
  diagnostics := by
    obtain ⟨more, hmore⟩ := exists_more_perform hm r
    exact ⟨more, more, hmore, hmore, List.forall₂_same.mpr fun d _ => .same d⟩

/-- An option that fails for want of a value. -/
theorem requoted_missing (option option' : String) (code : Int) (r : Reading) :
    Requoted option option' r (perform (throw (.missingArgument option code)) r)
      (perform (throw (.missingArgument option' code)) r) where
  answer := .error (.missingArgument code)
  reading := rfl
  diagnostics := ⟨[], [], (List.append_nil _).symm, (List.append_nil _).symm, .nil⟩

/-- But for the record, an error is counted whatever its wording. -/
theorem withRecord_perform_error (code : Int) (message : String) (r : Reading) :
    (perform (Handler.tell [.error code message]) r).2.withRecord [] =
      { r with desk := { r.desk with engine := { r.desk.engine with
        diagnostics := []
        errors := r.desk.engine.errors + 1
        expectedSeen := r.desk.engine.expectedSeen || r.desk.engine.policy.expected == some code } } } :=
  rfl

/-- An option that reports an error in which it is quoted. -/
theorem requoted_error (option option' before after : String) (code : Int) (r : Reading) :
    Requoted option option' r
      (perform (Handler.tell [.error code (before ++ option ++ after)]) r)
      (perform (Handler.tell [.error code (before ++ option' ++ after)]) r) where
  answer := .ok
  reading := by rw [withRecord_perform_error, withRecord_perform_error]
  diagnostics := ⟨_, _, rfl, rfl, .cons (.quoting .error code before after none) .nil⟩

/-- **A colon option** does the same however it is written, as long as it asks for the same. -/
theorem requoted_apply (o : ColonOption) {option option' : String}
    (h : ColonOption.asksToEmbed option = ColonOption.asksToEmbed option') (value : String)
    (enabled : Bool) (r : Reading) :
    Requoted option option' r (perform (o.apply env ⟨option, value, enabled⟩) r)
      (perform (o.apply env ⟨option', value, enabled⟩) r) := by
  have hquotes : ColonOption.Quotes env value enabled o := o.quotes value enabled
  cases hquotes with
  | nowhere hsame =>
      rw [hsame option option' h]
      exact requoted_same option option' (ColonOption.does_apply _ o).unaware r
  | missing code hmissing =>
      rw [hmissing, hmissing]
      exact requoted_missing option option' code r
  | wrongNumber hwrong =>
      rw [hwrong, hwrong]
      exact requoted_error option option' _ _ (-2005) r

/-- **Marks and letter case do not matter.**  Two arguments that are found as colon options, with the
same value behind names that are the same up to case, come to the same, whichever mark they have; only
their own texts may be quoted. -/
theorem requoted_dispatch {mark mark' name name' rest : String} (hmark : mark = "-" ∨ mark = "/")
    (hmark' : mark' = "-" ∨ mark' = "/") (hnames : Text.SameButCase name name')
    (hfound : (ColonOption.find? (Text.lowerCase name)).isSome = true)
    (hrest : rest = "" ∨ ∃ value, rest = ":" ++ value)
    (hlegacy : LegacyOption.find? (mark ++ name ++ rest) = none)
    (hlegacy' : LegacyOption.find? (mark' ++ name' ++ rest) = none) (env : Environment)
    (r : Reading) :
    Requoted ("/" ++ name) ("/" ++ name') r
      (perform (Handler.dispatch env (mark ++ name ++ rest)) r)
      (perform (Handler.dispatch env (mark' ++ name' ++ rest)) r) := by
  obtain ⟨⟨o, enabled⟩, hfind⟩ := Option.isSome_iff_exists.mp hfound
  have hfind' : ColonOption.find? (Text.lowerCase name') = some (o, enabled) := by
    rw [← hnames.lowerCase, hfind]
  obtain ⟨value, hvalue⟩ : ∃ value, rest = "" ∧ value = "" ∨ rest = ":" ++ value := by
    obtain rfl | ⟨value, rfl⟩ := hrest
    · exact ⟨"", .inl ⟨rfl, rfl⟩⟩
    · exact ⟨value, .inr rfl⟩
  rw [Meaning.perform_dispatch, Meaning.perform_dispatch,
    Meaning.ofOption_of_found hmark hfind hvalue hlegacy,
    Meaning.ofOption_of_found hmark' hfind' hvalue hlegacy']
  exact requoted_apply o (ColonOption.asksToEmbed_slash hnames) value enabled r

/-- A resource option with too many parts in its value is quoted as it was written. -/
theorem requoted_dispatch_resource :
    Text.SameButCase "RES" "rEs" ∧
      Requoted "/RES" "/rEs" {} (perform (Handler.dispatch CommandLine.bare "-RES:a,b,c,d") {})
        (perform (Handler.dispatch CommandLine.bare "/rEs:a,b,c,d") {}) := by
  have hnames : Text.SameButCase "RES" "rEs" := by decide
  have hfound : (ColonOption.find? (Text.lowerCase "RES")).isSome = true := by decide +kernel
  have hlegacy : LegacyOption.find? ("-" ++ "RES" ++ ":a,b,c,d") = none := by decide
  have hlegacy' : LegacyOption.find? ("/" ++ "rEs" ++ ":a,b,c,d") = none := by decide
  have hrequoted := requoted_dispatch (.inl rfl) (.inr rfl) hnames hfound
    (.inr ⟨"a,b,c,d", by decide⟩) hlegacy hlegacy' CommandLine.bare {}
  have hwritten : "-" ++ "RES" ++ ":a,b,c,d" = "-RES:a,b,c,d" := by decide
  have hwritten' : "/" ++ "rEs" ++ ":a,b,c,d" = "/rEs:a,b,c,d" := by decide
  have hquoted : "/" ++ "RES" = "/RES" := by decide
  have hquoted' : "/" ++ "rEs" = "/rEs" := by decide
  rw [hwritten, hwritten', hquoted, hquoted'] at hrequoted
  exact ⟨hnames, hrequoted⟩

end Reading

end BatchCompiler

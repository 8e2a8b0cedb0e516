import BatchCompiler.Proofs.CommandLine.Handler

/-!
# What handlers are made of

But for taking arguments, a handler is made of a few operations: it tells something, changes the
configuration or the reporting policy, adds to one of the lists, has packages expanded, or fails.
Whatever holds of each operation, and of two handlers in a row, holds of every option; so options are
gone through here once.

## Main definitions

* `ReportingPolicy.Setting` — a change of the policy that an option asks for
* `Config.Lists` — the lists of a configuration that arguments add to
* `Addition` — one addition to a list
* `LegacyOption.additions`, `ColonOption.additions` — what an option adds
* `LegacyOption.MaySet`, `ColonOption.MaySet` — the settings that an option may make
* `Handler.Does` — a handler is made of operations and carries out additions

## Main statements

* `ColonOption.does_apply`, `LegacyOption.does_apply` — options do what they add
-/

namespace BatchCompiler

/-! ## Settings -/

/-- **A setting of the reporting policy** that an option may ask for. -/
inductive ReportingPolicy.Setting where
  | warningLevel (level : Nat) (h : level ≤ 4)
  | warningsAsErrors (enabled : Bool)
  | ignore (code : Int) (h : 1 ≤ code)
  | fatal
  | expect (code : Int)

namespace ReportingPolicy.Setting

/-- The policy with a setting made. -/
def change : Setting → ReportingPolicy → ReportingPolicy
  | .warningLevel level _, p => { p with warningLevel := level }
  | .warningsAsErrors enabled, p => { p with warningsAsErrors := enabled }
  | .ignore code _, p => p.ignore code
  | .fatal, p => { p with fatal := true }
  | .expect code, p => { p with expected := some code }

/-- The setting makes errors of warnings. -/
def Raises (s : Setting) : Prop := s = .warningsAsErrors true

/-- The setting says what error is expected. -/
def Expects (s : Setting) : Prop := ∃ code, s = .expect code

/-- A setting that neither makes errors of warnings nor says what error is expected. -/
def Plain (s : Setting) : Prop := ¬s.Raises ∧ ¬s.Expects

theorem plain_warningLevel {level : Nat} (h : level ≤ 4) : (warningLevel level h).Plain :=
  ⟨nofun, nofun⟩

theorem plain_ignore {code : Int} (h : 1 ≤ code) : (ignore code h).Plain := ⟨nofun, nofun⟩

theorem plain_fatal : fatal.Plain := ⟨nofun, nofun⟩

/-- No other setting touches the expectation. -/
theorem expected_change {s : Setting} (h : ¬s.Expects) (p : ReportingPolicy) :
    (s.change p).expected = p.expected := by
  cases s with
  | expect code => exact absurd ⟨code, rfl⟩ h
  | ignore code _ =>
      show (p.ignore code).expected = p.expected
      unfold ReportingPolicy.ignore
      split
      · rfl
      · rfl
  | warningLevel | warningsAsErrors | fatal => rfl

end ReportingPolicy.Setting

/-! ## Additions -/

/-- **The lists of a configuration** that arguments add to. -/
structure Config.Lists where
  sources : SourceSet := {}
  resources : ResourceTable := {}
  references : ReferenceSet := {}
  symbols : List String := []
deriving DecidableEq

/-- The lists of a configuration. -/
def Config.lists (c : Config) : Lists := ⟨c.sources, c.resources, c.references, c.defines⟩

/-- **One addition** to the sources, the resources, the references or the conditional symbols. -/
inductive Addition where
  | source (spec : String) (recurse : Bool)
  | resource (r : Resource)
  | reference (entry : String)
  | symbol (name : String)
deriving DecidableEq, Repr

/-- What a legacy option adds, with its value. -/
def LegacyOption.additions (value : String) : LegacyOption → List Addition
  | .define => [.symbol value]
  | .linkResource => [.resource ⟨value, ⟨value⟩, .linked, .isPublic⟩]
  | .embedResource => [.resource ⟨value, ⟨value⟩, .embedded, .isPublic⟩]
  | .reference => [.reference value]
  | .recurse => [.source value true]
  | _ => []

/-- What a resource option adds, if its value can be read. -/
def ColonOption.resourceAdditions (option value : String) : List Addition :=
  (ResourceSpec.parse option value).1.toList.map fun spec =>
    .resource ⟨spec.name, ⟨spec.file⟩, if asksToEmbed option then .embedded else .linked,
      spec.visibility⟩

/-- What a list of symbols adds: those that are valid. -/
def ColonOption.symbolAdditions (value : String) : List Addition :=
  ((Text.pieces Text.isListMark value).filter Handler.isValidSymbol).map .symbol

/-- What a colon option adds: nothing without a value. -/
def ColonOption.additions (arg : ColonArgument) : ColonOption → List Addition
  | .define => if arg.value = "" then [] else symbolAdditions arg.value
  | .resource => if arg.value = "" then [] else resourceAdditions arg.option arg.value
  | .recurse => if arg.value = "" then [] else [.source arg.value true]
  | .reference => if arg.value = "" then [] else (Text.entries arg.value).map .reference
  | _ => []

/-! ## Handlers -/

open ReportingPolicy (Setting)

namespace Handler

/-- **A handler is made of operations**, of which those that change the policy make allowed settings,
and carries out additions. -/
inductive Does (env : Environment) (allowed : Setting → Prop) :
    {α : Type} → Handler α → List Addition → Prop
  | pure {α : Type} (a : α) : Does env allowed (pure a : Handler α) []
  | throw {α : Type} (problem : ArgumentError) : Does env allowed (throw problem : Handler α) []
  | tell (ns : List Notice) : Does env allowed (tell ns) []
  | setPolicy (s : Setting) (h : allowed s) : Does env allowed (setPolicy s.change) []
  | configure {change : Config → Config} (h : ∀ c : Config, (change c).lists = c.lists) :
      Does env allowed (configure change) []
  | close : Does env allowed (modify ({ · with optionsOpen := false }) : Handler Unit) []
  | ask (request : InfoRequest) : Does env allowed (ask request) []
  | expandPackages (packages : String) : Does env allowed (expandPackages env packages) []
  | source (spec : String) (recurse : Bool) :
      Does env allowed (addSource env spec recurse) [.source spec recurse]
  | resource (r : Resource) : Does env allowed (addResource r) [.resource r]
  | reference (entry : String) : Does env allowed (addReference entry) [.reference entry]
  | symbol (name : String) : Does env allowed (Handler.configure (·.define name)) [.symbol name]
  /-- What comes behind a handler that may fail adds nothing. -/
  | bind {α β : Type} {m : Handler α} {f : α → Handler β} {as : List Addition}
      (hm : Does env allowed m as) (hf : ∀ a, Does env allowed (f a) []) :
      Does env allowed (m >>= f) as
  /-- What comes behind a handler that does not fail adds what it adds. -/
  | andThen {β : Type} {m : Handler Unit} {f : Unit → Handler β} {as more : List Addition}
      (hm : Does env allowed m as) (hok : ∀ r, (perform m r).1 = .ok ())
      (hf : Does env allowed (f ()) more) : Does env allowed (m >>= f) (as ++ more)

variable {env : Environment} {allowed : Setting → Prop} {α : Type}

/-- More settings may be allowed. -/
theorem Does.mono {more : Setting → Prop} {m : Handler α} {as : List Addition}
    (h : Does env allowed m as) (hmore : ∀ s, allowed s → more s) : Does env more m as := by
  induction h with
  | pure a => exact .pure a
  | throw problem => exact .throw problem
  | tell ns => exact .tell ns
  | setPolicy s hs => exact .setPolicy s (hmore s hs)
  | configure hsame => exact .configure hsame
  | close => exact .close
  | ask request => exact .ask request
  | expandPackages packages => exact .expandPackages packages
  | source spec recurse => exact .source spec recurse
  | resource r => exact .resource r
  | reference entry => exact .reference entry
  | symbol name => exact .symbol name
  | bind _ _ ihm ihf => exact .bind ihm ihf
  | andThen _ hok _ ihm ihf => exact .andThen ihm hok ihf

/-- Telling something comes first. -/
theorem does_tell_bind (ns : List Notice) {f : Unit → Handler α} {as : List Addition}
    (hf : Does env allowed (f ()) as) : Does env allowed (tell ns >>= f) as :=
  .andThen (.tell ns) (fun _ => rfl) hf

theorem does_forM {f : α → Handler PUnit} (hf : ∀ a, Does env allowed (f a) []) (as : List α) :
    Does env allowed (as.forM f) [] := by
  induction as with
  | nil => exact .pure ()
  | cons a rest ih => exact .bind (hf a) fun _ => ih

/-- References one after another: none of them fails. -/
theorem does_addReferences (entries : List String) :
    Does env allowed (entries.forM addReference) (entries.map .reference) := by
  induction entries with
  | nil => exact .pure ()
  | cons entry rest ih => exact .andThen (.reference entry) (fun _ => rfl) ih

/-- Symbols one after another: those that are not valid are warned of. -/
theorem does_defineSymbols (entries : List String) :
    Does env allowed (entries.forM defineSymbol) ((entries.filter isValidSymbol).map .symbol) := by
  induction entries with
  | nil => exact .pure ()
  | cons entry rest ih =>
      by_cases hvalid : isValidSymbol entry = true
      · have hentry : defineSymbol entry = Handler.configure (·.define entry) := if_pos hvalid
        rw [List.filter_cons_of_pos hvalid]
        show Does env allowed (defineSymbol entry >>= fun _ => rest.forM defineSymbol) _
        rw [hentry]
        exact .andThen (.symbol entry) (fun _ => rfl) ih
      · have hentry : defineSymbol entry = tell _ := if_neg hvalid
        rw [List.filter_cons_of_neg hvalid]
        show Does env allowed (defineSymbol entry >>= fun _ => rest.forM defineSymbol) _
        rw [hentry]
        exact does_tell_bind _ ih

theorem natural?_le {max n : Nat} {s : String} (h : Text.natural? max s = some n) : n ≤ max := by
  unfold Text.natural? at h
  obtain ⟨m, -, hbound⟩ := Option.bind_eq_some_iff.mp h
  split at hbound
  · rename_i hle
    cases hbound
    exact hle
  · cases hbound

theorem does_setWarningLevel (hplain : ∀ s : Setting, s.Plain → allowed s) (value : String) :
    Does env allowed (setWarningLevel value) [] := by
  unfold setWarningLevel
  split
  · rename_i level hlevel
    have hle := natural?_le hlevel
    exact .setPolicy (.warningLevel level hle) (hplain _ (Setting.plain_warningLevel hle))
  · exact .tell _

theorem one_le_of_warningCode? {entry : String} {code : Int} (h : warningCode? entry = some code) :
    1 ≤ code := by
  obtain ⟨m, -, hbound⟩ := Option.bind_eq_some_iff.mp h
  split at hbound
  · rename_i hle
    cases hbound
    exact hle
  · cases hbound

theorem does_ignoreWarnings (hplain : ∀ s : Setting, s.Plain → allowed s) (values : String) :
    Does env allowed (ignoreWarnings values) [] := by
  refine does_forM (fun entry => ?_) _
  unfold ignoreWarning
  split
  · rename_i code hcode
    have hle := one_le_of_warningCode? hcode
    exact .setPolicy (.ignore code hle) (hplain _ (Setting.plain_ignore hle))
  · exact .tell _

theorem does_setTarget (name : String) : Does env allowed (setTarget name) [] := by
  unfold setTarget
  split
  · exact .configure fun _ => rfl
  · exact .tell _

theorem does_setLanguageVersion (name : String) :
    Does env allowed (setLanguageVersion name) [] := by
  unfold setLanguageVersion
  split
  · exact .configure fun _ => rfl
  · exact .tell _

theorem does_setEncoding (value : String) : Does env allowed (setEncoding env value) [] := by
  unfold setEncoding
  split
  · exact does_tell_bind _ (.configure fun _ => rfl)
  · exact .tell _

end Handler

/-! ## Options -/

namespace ColonOption

open Handler (Does)

/-- **The settings that an option may make**; one option may make errors of warnings. -/
def MaySet (arg : ColonArgument) (o : ColonOption) (s : Setting) : Prop :=
  s.Plain ∨ o = .warningsAsErrors ∧ s = .warningsAsErrors arg.enabled

variable {env : Environment} {allowed : Setting → Prop}

/-- An option that needs a value adds nothing without one. -/
theorem does_requiredOr_bind {f : String → Handler Unit} {as : String → List Addition}
    (hf : ∀ value, Does env allowed (f value) (as value)) (code : Int) (arg : ColonArgument) :
    Does env allowed (requiredOr code arg >>= f) (if arg.value = "" then [] else as arg.value) := by
  unfold requiredOr
  split
  · exact .throw _
  · exact hf arg.value

/-- An option that needs a value and adds nothing with one. -/
theorem does_nothing {f : String → Handler Unit} (hf : ∀ value, Does env allowed (f value) [])
    (code : Int) (arg : ColonArgument) : Does env allowed (requiredOr code arg >>= f) [] := by
  simpa using does_requiredOr_bind hf code arg

/-- **What a colon option does.** -/
theorem does_apply (arg : ColonArgument) (o : ColonOption) :
    Does env (o.MaySet arg) (o.apply env arg) (o.additions arg) := by
  cases o with
  | accepted | incremental => exact .pure ()
  | bugReport => exact .tell _
  | target => exact Handler.does_setTarget _
  | packages => exact does_nothing .expandPackages 5 arg
  | resource =>
      refine does_requiredOr_bind (fun value => ?_) 5 arg
      unfold resourceAdditions
      generalize ResourceSpec.parse arg.option value = parsed
      obtain ⟨_ | spec, told⟩ := parsed
      · exact Handler.does_tell_bind _ (.pure ())
      · exact Handler.does_tell_bind _ (.resource _)
  | define => exact does_requiredOr_bind (fun _ => Handler.does_defineSymbols _) 5 arg
  | reference => exact does_requiredOr_bind (fun _ => Handler.does_addReferences _) 5 arg
  | recurse => exact does_requiredOr_bind (fun value => .source value true) 5 arg
  | warningLevel => exact does_nothing (Handler.does_setWarningLevel fun _ => .inl) 5 arg
  | ignoreWarnings => exact does_nothing (Handler.does_ignoreWarnings fun _ => .inl) 5 arg
  | documentation =>
      refine does_nothing (fun _ => ?_) 2006 arg
      exact .configure fun _ => rfl
  | out | addModule | nativeResource | icon | libraryPath | mainClass | keyFile | keyContainer =>
      refine does_nothing (fun _ => ?_) 5 arg
      exact .configure fun _ => rfl
  | optimize | debug | checked | clsCheck | unsafeCode | noConfig | noStandardLibrary | delaySign =>
      rw [apply]
      exact .configure fun _ => rfl
  | warningsAsErrors => exact .setPolicy (.warningsAsErrors arg.enabled) (.inr ⟨rfl, rfl⟩)
  | internalHelp | help => exact .ask _
  | languageVersion => exact Handler.does_setLanguageVersion _
  | codePage => exact Handler.does_setEncoding _

end ColonOption

namespace LegacyOption

open Handler (Does)

/-- **The settings that an option may make**; one option makes errors of warnings, and one says what
error is expected. -/
def MaySet (o : LegacyOption) (s : Setting) : Prop :=
  s.Plain ∨ o = .warningsAsErrors ∧ s.Raises ∨ o = .expectError ∧ s.Expects

variable {env : Environment}

/-- **What a legacy option does.** -/
theorem does_apply (arg value : String) (o : LegacyOption) :
    Does env o.MaySet (o.apply env arg value) (o.additions value) := by
  cases o with
  | linkResource | embedResource =>
      rw [apply]
      exact .resource _
  | reference =>
      rw [apply]
      exact .reference _
  | recurse =>
      rw [apply]
      exact .source _ _
  | ignoreWarning =>
      rw [apply]
      split
      · split
        · rename_i hle
          exact .setPolicy (.ignore _ hle) (.inl (Setting.plain_ignore hle))
        · exact .throw _
      · exact .throw _
  | debugLevel =>
      rw [apply]
      split
      · exact .configure fun _ => rfl
      · exact .throw _
  | expectError =>
      rw [apply]
      split
      · rename_i code _
        exact .setPolicy (.expect code) (.inr (.inr ⟨rfl, code, rfl⟩))
      · exact .throw _
  | target =>
      rw [apply]
      exact Handler.does_setTarget _
  | warningLevel =>
      rw [apply]
      exact Handler.does_setWarningLevel (fun _ => .inl) _
  | version | help | about =>
      rw [apply]
      exact .ask _
  | fatal =>
      rw [apply]
      exact .setPolicy .fatal (.inl Setting.plain_fatal)
  | warningsAsErrors =>
      rw [apply]
      exact .setPolicy (.warningsAsErrors true) (.inr (.inl ⟨rfl, rfl⟩))
  | define =>
      rw [apply]
      exact .symbol _
  | verbose | parseOnly | mainClass | unsafeCode | tokenizeOnly | output | checked
  | stackTrace | libraryPath | noStandardLibrary | timestamps | debug | noConfig =>
      rw [apply]
      exact .configure fun _ => rfl

end LegacyOption

end BatchCompiler

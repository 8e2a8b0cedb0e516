import BatchCompiler.Proofs.CommandLine.Lists
import BatchCompiler.Proofs.CommandLine.Operands
import BatchCompiler.Proofs.CommandLine.Steps

/-!
# What holds at every point of a command line

However far a command line has been read, its configuration and its reporting policy are well formed.
The points of a reading are those that small steps lead to, so they include what no command line comes
to.  What an alias or a name stands for depends on the arguments read, which is followed turn by turn.

## Main definitions

* `ReportingPolicy.Sound` — a policy that options may set
* `Reading.Leads` — small steps lead from one point of a reading to another
* `Reading.after`, `Reading.asked` — a reading after so many turns, and what they have added
* `CommandLine.opening` — a command line about to be read

## Main statements

* `Reading.Leads.sound`, `Reading.Leads.exists_hold` — what small steps do to the policy and the lists
* `Reading.lists_after` — turns carry out what they are asked
* `CommandLine.wellFormed_reading` — every point of a command line is well formed
-/

namespace BatchCompiler

/-! ## The reporting policy -/

/-- **A policy that options may set**: the level is at most four, and no code below one is dropped. -/
structure ReportingPolicy.Sound (p : ReportingPolicy) : Prop where
  level : p.warningLevel ≤ 4
  ignored : ∀ code ∈ p.ignored, 1 ≤ code

namespace ReportingPolicy

variable {p : ReportingPolicy}

theorem sound_standard : Sound {} := ⟨Nat.le_refl 4, nofun⟩

/-- **A setting keeps a policy sound.** -/
theorem Sound.setting (h : p.Sound) (s : Setting) : (s.change p).Sound := by
  cases s with
  | warningLevel level hlevel => exact ⟨hlevel, h.ignored⟩
  | warningsAsErrors | fatal | expect => exact ⟨h.level, h.ignored⟩
  | ignore code hcode =>
      show (p.ignore code).Sound
      unfold ReportingPolicy.ignore
      split
      · exact h
      · refine ⟨h.level, fun other hmem => ?_⟩
        obtain hold | rfl := (List.mem_append.mp hmem).imp_right List.mem_singleton.mp
        · exact h.ignored other hold
        · exact hcode

end ReportingPolicy

/-- **A warning of a code below one is dropped for its level only.** -/
theorem Engine.suppresses_of_code_lt_one {e : Engine} (h : e.policy.Sound) {r : Report}
    (hcode : r.diagnostic.code < 1) : e.suppresses r = decide (e.policy.warningLevel < r.level) := by
  unfold suppresses
  have hkept : e.policy.ignored.contains r.diagnostic.code = false := by
    rw [List.contains_eq_mem, decide_eq_false_iff_not]
    exact fun hmem => absurd (h.ignored _ hmem) (by omega)
  rw [hkept, Bool.false_or]

/-! ## Small steps -/

namespace Reading

variable {env : Environment} {r r' r'' : Reading}

/-- **Small steps lead from one point to another.** -/
def Leads (env : Environment) (r r' : Reading) : Prop :=
  Relation.ReflTransGen (fun r r' => Step env r r' ∨ r.Expects r') r r'

theorem leads_turn (env : Environment) (r : Reading) : r.Leads env (r.turn env).2 := by
  obtain hsteps | hexpects := r.steps_or_expects_turn env
  · exact hsteps.lift id fun _ _ => .inl
  · exact .single (.inr hexpects)

theorem Step.sound (h : Step env r r') (hsound : r.desk.engine.policy.Sound) :
    r'.desk.engine.policy.Sound := by
  cases h with
  | tell ns =>
      rw [Desk.takeAll_engine, Engine.submitAll_policy]
      exact hsound
  | policy _ => exact hsound.setting _
  | _ => exact hsound

/-- **A step carries out one addition at most.** -/
theorem Step.exists_lists (h : Step env r r') :
    ∃ as, r'.config.lists = r.config.lists.addAll env as := by
  cases h with
  | source spec recurse => exact ⟨[.source spec recurse], rfl⟩
  | resource resource => exact ⟨[.resource resource], rfl⟩
  | reference entry => exact ⟨[.reference entry], rfl⟩
  | define symbol => exact ⟨[.symbol symbol], r.config.lists_define env symbol⟩
  | config hsame => exact ⟨[], hsame⟩
  | _ => exact ⟨[], rfl⟩

/-- **The policy is sound at every point.** -/
theorem Leads.sound (h : r.Leads env r') (hsound : r.desk.engine.policy.Sound) :
    r'.desk.engine.policy.Sound := by
  induction h with
  | refl => exact hsound
  | tail _ hnext ih =>
      obtain hstep | hexpects := hnext
      · exact hstep.sound ih
      · obtain ⟨expected, hengine⟩ := hexpects.engine
        rw [hengine]
        exact ⟨ih.level, ih.ignored⟩

/-- **The lists at every point** are what additions have made of the ones before. -/
theorem Leads.exists_hold (h : r.Leads env r') {as : List Addition}
    (hhold : r.config.lists.Hold env as) :
    ∃ more, r'.config.lists.Hold env (as ++ more) := by
  induction h with
  | refl => exact ⟨[], by rwa [List.append_nil]⟩
  | tail _ hnext ih =>
      obtain ⟨more, hmore⟩ := ih
      obtain hstep | hexpects := hnext
      · obtain ⟨added, hadded⟩ := hstep.exists_lists
        refine ⟨more ++ added, ?_⟩
        rw [hadded, ← List.append_assoc]
        exact hmore.addAll added
      · exact ⟨more, by rwa [hexpects.config]⟩

/-! ## Turns -/

/-- **A reading after so many turns**, or at its end if that comes earlier. -/
def after (env : Environment) : (turns : Nat) → Reading → Reading
  | 0, r => r
  | turns + 1, r =>
      match r.turn env with
      | (some _, r') => r'
      | (none, r') => after env turns r'

/-- **What so many turns add.** -/
def asked (env : Environment) : (turns : Nat) → Reading → List Addition
  | 0, _ => []
  | turns + 1, r =>
      r.additions ++
        match r.turn env with
        | (some _, _) => []
        | (none, r') => asked env turns r'

/-- **Turns carry out what they are asked.** -/
theorem lists_after (turns : Nat) (r : Reading) :
    (r.after env turns).config.lists = r.config.lists.addAll env (r.asked env turns) := by
  induction turns generalizing r with
  | zero => rfl
  | succ turns ih =>
      have hturn := r.lists_turn env
      unfold after asked
      rw [Config.Lists.addAll_append, ← hturn]
      rcases r.turn env with ⟨_ | ending, r'⟩
      · exact ih r'
      · rfl

theorem leads_after_succ (turns : Nat) (r : Reading) :
    (r.after env turns).Leads env (r.after env (turns + 1)) := by
  induction turns generalizing r with
  | zero =>
      have hturn := r.leads_turn env
      unfold after
      rcases hnext : r.turn env with ⟨_ | ending, r'⟩
      · rwa [hnext] at hturn
      · rwa [hnext] at hturn
  | succ turns ih =>
      rw [after, after]
      rcases r.turn env with ⟨_ | ending, r'⟩
      · exact ih r'
      · exact .refl

theorem leads_after (turns : Nat) (r : Reading) : r.Leads env (r.after env turns) := by
  induction turns with
  | zero => exact .refl
  | succ turns ih => exact ih.trans (leads_after_succ turns r)

theorem asked_prefix_succ (turns : Nat) (r : Reading) :
    r.asked env turns <+: r.asked env (turns + 1) := by
  induction turns generalizing r with
  | zero => exact List.nil_prefix
  | succ turns ih =>
      rw [asked, asked]
      rcases r.turn env with ⟨_ | ending, r'⟩
      · exact (List.prefix_append_right_inj _).mpr (ih r')
      · exact List.prefix_rfl

theorem after_of_unread_nil (h : r.unread = []) (turns : Nat) : r.after env turns = r := by
  cases turns with
  | zero => rfl
  | succ turns => simp only [after, turn, h]

/-- **A reading that is read to its end** is the one after those turns. -/
theorem after_of_run {turns : Nat} {ending : Ending} (h : run env turns r = some (ending, r')) :
    r.after env turns = r' := by
  induction turns generalizing r with
  | zero => cases h
  | succ turns ih =>
      rw [run] at h
      rw [after]
      rcases hturn : r.turn env with ⟨_ | ending', r₁⟩
      · rw [hturn] at h
        exact ih h
      · rw [hturn] at h
        cases h
        rfl

end Reading

/-! ## The command line -/

/-- **There is something to compile**: a source file, or for a library a resource. -/
theorem Config.hasInput_iff {c : Config} :
    c.hasInput = true ↔
      c.sources.files ≠ [] ∨ c.target = .library ∧ c.resources.toList ≠ [] := by
  have hsource : c.target.needsSource = false ↔ c.target = .library := by
    cases c.target <;> decide
  simp [hasInput, SourceSet.isEmpty, ResourceTable.isEmpty, OrderedMap.isEmpty,
    ResourceTable.toList, OrderedMap.values, hsource]

namespace CommandLine

/-- **A command line about to be read**, with the configuration and the engine as they are to start
with: response files have been expanded, and there is nothing to read if they could not be. -/
def opening (env : Environment) (args : List String) : Reading :=
  let expansion := ResponseFile.expand env.files [] args
  start {} {} expansion (expansion.result.toOption.getD [])

/-- The reading of a command line after so many turns. -/
def readingAfter (env : Environment) (args : List String) (turns : Nat) : Reading :=
  (opening env args).after env turns

/-- What a command line has added after so many turns. -/
def askedAfter (env : Environment) (args : List String) (turns : Nat) : List Addition :=
  (opening env args).asked env turns

variable {env : Environment} {args : List String} {r r' : Reading}

theorem sound_of_leads (h : (opening env args).Leads env r) : r.desk.engine.policy.Sound := by
  refine h.sound ?_
  show (Desk.takeAll {} _).engine.policy.Sound
  rw [Desk.takeAll_engine, Engine.submitAll_policy]
  exact ReportingPolicy.sound_standard

/-- The lists at every point are what some additions have made them. -/
theorem exists_hold_of_leads (h : (opening env args).Leads env r) :
    ∃ as, r.config.lists.Hold env as := h.exists_hold (Config.Lists.hold_nil _)

/-- **The first source stays the first** from one point to another. -/
theorem first?_of_leads (h : (opening env args).Leads env r) (hnext : r.Leads env r') {p : Path}
    (hfirst : r.config.sources.first? = some p) : r'.config.sources.first? = some p := by
  obtain ⟨as, hhold⟩ := exists_hold_of_leads h
  obtain ⟨more, hmore⟩ := hnext.exists_hold hhold
  exact hhold.first?_of_prefix hmore hfirst

/-- **A command line that comes to an end** has been read for those turns. -/
theorem readingAfter_of_parse {turns : Nat} {ending : Reading.Ending}
    (h : parse env turns {} {} args = some (ending, r)) : readingAfter env args turns = r := by
  unfold parse at h
  unfold readingAfter opening
  dsimp only at h ⊢
  cases hresult : (ResponseFile.expand env.files [] args).result with
  | error problem =>
      rw [hresult] at h
      cases h
      exact Reading.after_of_unread_nil rfl turns
  | ok expanded =>
      rw [hresult] at h
      exact Reading.after_of_run h

/-- A command line that compiles has something to compile. -/
theorem hasInput_of_parse {turns : Nat} {config : Config}
    (h : parse env turns {} {} args = some (.ok (.compile config), r)) :
    r.config = config ∧ config.hasInput = true := by
  unfold parse at h
  dsimp only at h
  split at h
  · cases h
  · obtain ⟨-, -, rfl, hinput⟩ := Reading.run_eq_compile rfl h
    exact ⟨rfl, hinput⟩

/-- **Every point of a command line is well formed**, from its opening on, however many turns the
reading lasts and whether it comes to an end or not.

At every point the warning level is at most four and no code below one is dropped, so that a warning
of such a code is dropped for its level only; aliases differ, and each is valid and bound to a library
that is named; resources differ in their names, and sources differ as paths, of which the first one
stays the first.

Each turn leads from one point to the next.  The lists are what the arguments have added by then: after
each of these additions they hold what was added first, and for an alias what it was assigned last, and
the rest of the additions makes them what they are after the turn.  If the reading comes to its end, it
is the one after those turns, and if that is a compilation, there is something to compile. -/
theorem wellFormed_reading (env : Environment) (args : List String) :
    (∀ r, (opening env args).Leads env r →
      r.desk.engine.policy.warningLevel ≤ 4 ∧
      (∀ code ∈ r.desk.engine.policy.ignored, 1 ≤ code) ∧
      (∀ report : Report, report.diagnostic.code < 1 → r.desk.engine.suppresses report =
        decide (r.desk.engine.policy.warningLevel < report.level)) ∧
      r.config.references.aliases.keys.Nodup ∧
      (∀ alias_ ∈ r.config.references.aliases.keys, isValidAlias alias_ = true ∧
        ∃ name, r.config.references.aliases.get? alias_ = some name ∧ name ≠ "") ∧
      (r.config.resources.toList.map Resource.name).Nodup ∧
      (r.config.sources.files.Pairwise fun p q => q.same p = false) ∧
      ∀ r', r.Leads env r' → ∀ p,
        r.config.sources.first? = some p → r'.config.sources.first? = some p) ∧
    readingAfter env args 0 = opening env args ∧
    (∀ turns,
      (readingAfter env args turns).Leads env (readingAfter env args (turns + 1)) ∧
      askedAfter env args turns <+: askedAfter env args (turns + 1) ∧
      ∀ done rest, askedAfter env args turns = done ++ rest → ∃ l : Config.Lists,
        l.Hold env done ∧
          (readingAfter env args turns).config.lists = l.addAll env rest) ∧
    ∀ turns ending r, parse env turns {} {} args = some (ending, r) →
      readingAfter env args turns = r ∧ ∀ config, ending = .ok (.compile config) →
        r.config = config ∧
          (config.sources.files ≠ [] ∨
            config.target = .library ∧ config.resources.toList ≠ []) := by
  refine ⟨fun r hleads => ?_, rfl, fun turns => ?_, fun turns ending r hparse => ?_⟩
  · have hsound := sound_of_leads hleads
    obtain ⟨as, hhold⟩ := exists_hold_of_leads hleads
    refine ⟨hsound.level, hsound.ignored, fun _ => Engine.suppresses_of_code_lt_one hsound,
      hhold.references.nodup, fun alias_ hmem => ?_, hhold.resources.nodup, hhold.pairwise_sources,
      fun r' hnext p => first?_of_leads hleads hnext⟩
    obtain ⟨name, hname⟩ := OrderedMap.exists_of_mem_keys hmem
    obtain ⟨hvalid, hnamed⟩ := hhold.valid hname
    exact ⟨hvalid, name, hname, hnamed⟩
  · refine ⟨Reading.leads_after_succ turns _, Reading.asked_prefix_succ turns _,
      fun done rest hasked => ⟨_, (Config.Lists.hold_nil env).addAll done, ?_⟩⟩
    rw [← Config.Lists.addAll_append, ← hasked]
    exact Reading.lists_after turns _
  · refine ⟨readingAfter_of_parse hparse, fun config hending => ?_⟩
    obtain ⟨hconfig, hinput⟩ := hasInput_of_parse (hending ▸ hparse)
    exact ⟨hconfig, Config.hasInput_iff.mp hinput⟩

/-- Of an alias that is assigned twice the last library is kept, and of two resources of one name the
first; what follows comes from a response file, a package and a separator. -/
theorem wellFormed_reading_nested :
    let args := ["-r:A=x", "-res:d,n", "-r:A=y", "-res:e,n", "@args"]
    ∃ config r, parse nested 10 {} {} args = some (.ok (.compile config), r) ∧
      config.references.aliases = ⟨[("A", "y")]⟩ ∧
      config.resources.toList = [⟨"n", ⟨"d"⟩, .embedded, .isPublic⟩] ∧
      r.config = config ∧ (opening nested args).Leads nested r ∧
      r.desk.engine.policy.warningLevel ≤ 4 ∧
      r.config.references.aliases.keys.Nodup ∧
      (isValidAlias "A" = true ∧
        ∃ name, r.config.references.aliases.get? "A" = some name ∧ name ≠ "") ∧
      (r.config.resources.toList.map Resource.name).Nodup ∧
      (∃ l : Config.Lists,
        l.Hold nested [.reference "A=x", .resource ⟨"n", ⟨"d"⟩, .embedded, .isPublic⟩] ∧
        (readingAfter nested args 4).config.lists =
          l.addAll nested [.reference "A=y", .resource ⟨"n", ⟨"e"⟩, .embedded, .isPublic⟩]) ∧
      (config.sources.files ≠ [] ∨ config.target = .library ∧ config.resources.toList ≠ []) := by
  intro args
  have hexpand : ResponseFile.expand nested.files [] args =
      ⟨.ok ["-r:A=x", "-res:d,n", "-r:A=y", "-res:e,n", "-pkg:p", "--", "b"], ["args"],
        [.log .debug .responseFile "response file args expanded to 3 arguments"]⟩ := by
    iterate 4 rw [ResponseFile.expand_cons_of_plain (by decide) (by decide)]
    rw [expand_nested]
    rfl
  have hending : (parse nested 10 {} {} args).map Prod.fst = some (.ok (.compile
      { sources := ⟨[⟨"a"⟩, ⟨"b"⟩]⟩
        references := { aliases := ⟨[("A", "y")]⟩ }
        resources := { entries := ⟨[("n", ⟨"n", ⟨"d"⟩, .embedded, .isPublic⟩)]⟩ }
        parserVerbosity := 1
        responseFiles := ["args"] })) := by
    unfold parse
    dsimp only
    rw [hexpand]
    decide +kernel
  have hasked : askedAfter nested args 4 =
      [.reference "A=x", .resource ⟨"n", ⟨"d"⟩, .embedded, .isPublic⟩] ++
        [.reference "A=y", .resource ⟨"n", ⟨"e"⟩, .embedded, .isPublic⟩] := by
    unfold askedAfter opening
    rw [hexpand]
    decide +kernel
  obtain ⟨⟨_, r⟩, hparse, rfl⟩ := Option.map_eq_some_iff.mp hending
  obtain ⟨hpoints, -, hturns, hends⟩ := wellFormed_reading nested args
  obtain ⟨hread, hcompiles⟩ := hends 10 _ r hparse
  obtain ⟨hconfig, hinput⟩ := hcompiles _ rfl
  have hleads : (opening nested args).Leads nested r := hread ▸ Reading.leads_after 10 _
  obtain ⟨hlevel, -, -, haliases, hvalid, hresources, -⟩ := hpoints r hleads
  have hkey : "A" ∈ r.config.references.aliases.keys := by
    rw [hconfig]
    decide
  exact ⟨_, r, hparse, rfl, rfl, hconfig, hleads, hlevel, haliases, hvalid "A" hkey, hresources,
    (hturns 4).2.2 _ _ hasked, hinput⟩

end CommandLine

end BatchCompiler

import BatchCompiler.Pipeline.Run
import BatchCompiler.Proofs.Pipeline.Conditions

/-!
# The stages of a run, one by one

Every stage is gone through once.  What is said of it: between which stations its calls lie, where it can
only go on without an error, what it settles, in which phase it ends, and what is known when it ends the
run.  Most stages have a check for errors behind each of their calls.  The others come to their end behind
an error, call somebody behind one, or halt the run.

## Main definitions

* `Stage.openedAs`, `Stage.savedAs` — what is settled by opening the output and by saving it

## Main statements

* `Stage.does_parse`, `Stage.does_configureDefaults`, …, `Stage.does_save` — one stage each
-/

namespace BatchCompiler

variable {σ : Type}

open Watch

namespace Stage

variable {c : Collaborators σ} {g : Terms} {S : Setup → Prop} {W : Watch}
  {X : Stop → List Station → Prop}

/-- To be ended as fatal in a phase, nobody having been called behind an error but at some stations. -/
abbrev FatalIn (p : Phase) (A : List Station) : Stop → List Station → Prop :=
  EndsAs (.fatal p) (OnlyAt A)

theorem endsAs_of {stop : Stop} {L : List Station → Prop} (late : List Station) (h : L late) :
    EndsAs stop L stop late := ⟨rfl, h⟩

/-! ## Sources -/

theorem does_tokenizeFile (path : Path) (text : String) :
    Does c g .sources .references (Within .parse S (Checked g (OnlyAt []))) (tokenizeFile c path text)
      (fun _ => Within .parse S (Behind g (OnlyAt []))) (Ended c g S (FatalIn .parse [])) :=
  Does.andThen (does_ask ⟨rfl, nofun, nofun⟩ nofun consults_checked.asks
    fun _ hc => (hc.tokens path text).at rfl) (fun _ => does_tell_events rfl) (by decide) le_rfl

theorem does_parseFile (path : Path) (text : String) :
    Does c g .sources .references (Within .parse S (Checked g (OnlyAt []))) (parseFile c path text)
      (fun _ => Within .parse S (Behind g (OnlyAt []))) (Ended c g S (FatalIn .parse [])) := by
  refine Does.first (does_log _ _) (fun _ => ?_) (by decide)
  refine Does.first (does_modify (fun _ => ⟨rfl, rfl, rfl, rfl, rfl⟩)
    fun _ _ _ h => { h with tree := by dsimp only; rw [h.tree] }) (fun _ => ?_) (by decide)
  refine does_look (fun s s' h => by rw [h.config, h.tree]) fun s _ => ?_
  refine Does.andThen (does_consult ⟨rfl, nofun, nofun⟩ nofun consults_checked
    fun _ hc e e' he => ?_) (fun abort => ?_) (by decide) le_rfl
  · exact ((hc.parse _ _ e e' he).answer
      fun result => ((result.tree, result.abort), result.reports)).at rfl
  refine Does.first (does_modify (fun _ => ⟨rfl, rfl, rfl, rfl, rfl⟩)
    fun _ _ _ h => { h with tree := rfl }) (fun _ => ?_) le_rfl
  split
  · exact does_tell _ lasts_behind
  · exact .pure () fun _ => id

theorem does_attemptSource (path : Path) :
    Does c g .sources .references (Within .parse S (Checked g (OnlyAt []))) (attemptSource c path)
      (fun _ => Within .parse S (Behind g (OnlyAt []))) (Ended c g S (FatalIn .parse [])) := by
  refine does_look (fun s s' h => by rw [h.files, h.config]) fun s _ => ?_
  split
  · exact ((does_tell _ lasts_behind).pre fun _ h => h.mono behind_of_checked).upTo (by decide) rfl
  · split
    · exact does_tokenizeFile path _
    · exact does_parseFile path _

theorem does_attemptSources (paths : List Path) :
    Does c g .sources .references (Within .parse S (Behind g (OnlyAt []))) (attemptSources c paths)
      (fun _ => Within .parse S (Behind g (OnlyAt []))) (Ended c g S (FatalIn .parse [])) := by
  induction paths with
  | nil => exact Does.upTo (.pure () fun _ => id) (by decide) rfl
  | cons path rest ih =>
      refine Does.first (does_check endsAs_of) (fun _ => ?_) (by decide)
      exact Does.bind (does_attemptSource path) (fun _ => ih) (.again rfl rfl)

/-- **Sources** are attempted in order, until one has a fatal error. -/
theorem does_parse :
    Does c g .sources .references (Settled S (Behind g (OnlyAt []))) (parse c)
      (fun _ => Within .parse S Calm) (Ended c g S (FatalIn .parse [])) := by
  refine Does.first does_enter (fun _ => does_look (fun s s' h => by rw [h.config]) fun s _ => ?_)
    (by decide)
  refine Does.andThen (does_attemptSources _) (fun _ => ?_) (by decide) le_rfl
  exact does_lap_gate endsAs_of

/-! ## References and the output -/

/-- **The default references** are a matter of the configuration alone. -/
theorem does_configureDefaults :
    Does c g .references .references (Settled S Calm) (configureDefaults : Stage σ Unit)
      (fun _ => Within .configureDefaults S Calm)
      (Ended c g S (FatalIn .configureDefaults [])) := by
  refine Does.first does_enter (fun _ => Does.first (does_modify (fun s => ?_) fun l s s' h => ?_)
    (fun _ => ?_) le_rfl) le_rfl
  · split
    · exact ⟨rfl, rfl, rfl, rfl, rfl⟩
    · exact ⟨rfl, rfl, rfl, rfl, rfl⟩
  · dsimp only
    rw [h.config]
    split
    · exact { h with config := rfl }
    · exact h
  · exact (does_gate endsAs_of).pre fun _ h => h.mono (behind_of_calm onlyAt_nil)

/-- **References** are loaded one after another, and between two nobody checks for errors. -/
theorem does_loadReferences :
    Does c g .references .opening (Settled S Calm) (loadReferences c)
      (fun _ => Within .loadReferences S Calm)
      (Ended c g S (FatalIn .loadReferences [.references])) := by
  refine does_announce ?_ (by decide)
  refine Does.bind (does_ask ⟨rfl, nofun, nofun⟩ nofun asks_calm
    fun _ hc => hc.systemDirectory.at rfl) (fun system => ?_) (.again rfl rfl)
  refine does_look (fun s s' h => by rw [h.resolver, h.config, h.files]) fun s _ => ?_
  refine Does.andThen ((does_job (ReferenceResolver.does_resolveAll _ _ _) rfl rfl rfl
    (List.mem_singleton_self _)).pre fun _ h => h.mono (behind_of_calm onlyAt_nil))
    (fun resolver => ?_) (by decide) le_rfl
  refine Does.first (does_modify (fun _ => ⟨rfl, rfl, rfl, rfl, rfl⟩)
    fun _ _ _ h => { h with resolver := rfl }) (fun _ => ?_) le_rfl
  exact does_lap_gate endsAs_of

/-- What is settled once the output is open. -/
def openedAs (su : Setup) (path : Path) : Setup :=
  { su with output := some path, opened := su.opened ++ [path] }

/-- **The output has been opened** under some path. -/
def Opened (S : Setup → Prop) (su' : Setup) : Prop := ∃ su path, S su ∧ su' = openedAs su path

/-- The backend has been asked to open the output under a path. -/
def AskedToOpen (S : Setup → Prop) (path : Path) (su' : Setup) : Prop :=
  ∃ su, S su ∧ su' = { su with opened := su.opened ++ [path] }

theorem saved_of_askedToOpen {path : Path} :
    ∀ su', AskedToOpen S path su' → ∃ su, S su ∧ su'.saved = su.saved := by
  rintro _ ⟨su, hsu, rfl⟩
  exact ⟨su, hsu, rfl⟩

/-- What is left to do once the output is open: to mark it if it is a module, and to settle its path. -/
theorem does_settleOutput (path : Path) (config : Config) :
    Does c g .moduleMark .modules (Within .outputIdentity (AskedToOpen S path) Calm) (do
      if config.target = .netmodule then
        if !(← ask (.supports .moduleOnly) (c.output.supports .moduleOnly)) then
          report (.missingSupport "/target:module")
          throw (.missingSupport "/target:module")
        ask .markModuleOnly c.output.markModuleOnly
      modify ({ · with output := some path }))
      (fun _ => Within .outputIdentity (Opened S) Calm) (Ended c g S X) := by
  have hsettle {lo : Station} : Does c g lo lo (Within .outputIdentity (AskedToOpen S path) Calm)
      (modify ({ · with output := some path }) : Stage σ PUnit)
      (fun _ => Within .outputIdentity (Opened S) Calm) (Ended c g S X) := by
    refine .change (fun _ => ⟨rfl, rfl⟩) (fun _ _ _ h => { h with output := rfl }) ?_
    intro s late hx
    obtain ⟨su, hsu, hsetup⟩ := hx.setup
    refine ⟨⟨⟨su, path, hsu, ?_⟩, hx.watch⟩, hx.phase⟩
    exact congrArg (fun su' : Setup => { su' with output := some path }) hsetup
  split
  · refine Does.bind (does_ask_of (F := fun supported => c.Candid → supported = true)
      ⟨rfl, nofun, nofun⟩ nofun asks_calm (fun _ _ => Act.alike_at rfl rfl)
      fun site h => h.moduleOnly site) (fun supported => ?_) (.again rfl rfl)
    split
    · -- No error is counted for the want of support, and so a candid backend does not refuse.
      rename_i hrefused
      refine Does.first (does_report_missingSupport _) (fun _ => does_throw_bind ?_) (by decide)
      rintro x ⟨hx, hsupported⟩
      refine ⟨saved_of_askedToOpen _ hx.setup, fun h => ?_, fun _ hpos => ?_⟩
      · rw [hsupported h] at hrefused
        cases hrefused
      · exact absurd hx.watch.1 hpos.ne'
    · exact Does.andThen (Does.pre (does_ask_open ⟨rfl, nofun, nofun⟩ rfl nofun
        asks_calm) fun _ h => h.1) (fun _ => hsettle) (by decide) le_rfl
  · exact Does.upTo hsettle (by decide) rfl

/-- **The output** is given a path and opened.  Without a path the run is halted. -/
theorem does_outputIdentity :
    Does c g .opening .modules (Settled S Calm) (outputIdentity c)
      (fun _ => Within .outputIdentity (Opened S) Calm)
      (Ended c g S (EndsAs (if g.destination.isSome then .fatal .outputIdentity
        else .halted .outputIdentity) (OnlyAt []))) := by
  refine Does.first does_enter (fun _ => does_look (fun s s' h => by rw [h.config]) fun s hs => ?_)
    (by decide)
  have hdestination : s.config.destination? = g.destination := congrArg Terms.destination hs
  unfold Config.destination? at hdestination
  dsimp only
  split
  · rename_i hnone
    rw [← hdestination, hnone]
    exact does_report_throw rfl rfl (fun _ n late h => ⟨rfl, onlyAt_nil_iff.mpr h.2⟩) (by decide)
  · rename_i path hsome
    rw [← hdestination, hsome]
    refine Does.first (does_log _ _) (fun _ => ?_) (by decide)
    refine Does.opening (fun x hx => hx.watch.1) (fun fault => rfl) ?_ ?_ (by decide)
    · rintro fault x e hx herrors
      refine ⟨⟨_, hx.setup, rfl⟩, fun _ => ⟨?_, rfl⟩, fun _ _ => ⟨rfl, ?_⟩⟩
      · exact Engine.errors_pos_submitAll_of_mem (List.mem_singleton_self _) rfl e
      · rw [Affairs.called, hx.watch.1, hx.watch.2]
        exact onlyAt_nil
    · refine (does_settleOutput path s.config).pre ?_
      rintro _ ⟨x, hx, rfl⟩
      refine ⟨⟨⟨_, hx.setup, rfl⟩, asks_calm _ _ hx.watch⟩, hx.phase⟩

/-! ## The tree -/

/-- **Modules** are linked one after another, and between two nobody checks for errors. -/
theorem does_loadModules :
    Does c g .modules .coreTypes (Settled S Calm) (do loadModules c; stopIfFatal)
      (fun _ => Within .loadModules S (Checked g (OnlyAt [.modules])))
      (Ended c g S (FatalIn .loadModules [.modules])) := by
  have hload : Does c g .modules .coreTypes (Settled S Calm) (loadModules c)
      (fun _ => Within .loadModules S (Behind g (OnlyAt [.modules])))
      (Ended c g S (FatalIn .loadModules [.modules])) := by
    refine Does.first does_enter (fun _ => ?_) (by decide)
    refine does_look (fun s s' h => by rw [h.resolver, h.config]) fun s _ => ?_
    refine Does.andThen (Does.pre (does_job (ReferenceResolver.does_loadModules _ _) rfl rfl rfl
      (List.mem_singleton_self _)) fun _ h => h.mono (behind_of_calm onlyAt_nil))
      (fun resolver => ?_) (by decide) le_rfl
    exact does_modify (fun _ => ⟨rfl, rfl, rfl, rfl, rfl⟩) fun _ _ _ h => { h with resolver := rfl }
  exact Does.andThen hload (fun _ => does_check endsAs_of) (by decide) le_rfl

/-- **Who may refuse** is consulted, and reports an error then if it is candid. -/
theorem does_consult_refusing {E : Stop → Condition} {p : Phase} {st : Station} {W' : Watch}
    {call : Call} {act : Engine → Act σ (Bool × List Report)} (hcall : call.At st)
    (hopen : st.isOpen = true) (hgate : st.needsNoError = true → ∀ n late, W n late → n = 0)
    (hW : Consults st W W') (halike : ∀ l, c.Alike l → ∀ e e', l.engine e e' → act e = act e')
    (hcandid : c.Candid → ∀ engine site, (act engine site).1.1 = false →
      ∃ r ∈ (act engine site).1.2, r.diagnostic.severity = .error) :
    Does c g st st.next (Within p S W) (consult call act)
      (fun granted x => Within p S W' x ∧ (0 < x.errors ∨ (c.Candid → granted = true))) E := by
  refine does_consult_of (F := fun granted => c.Candid → granted = true) hcall hgate hW
    (fun l hc e e' he => Act.alike_at hopen (halike l hc e e' he)) fun engine site => ?_
  cases hanswer : (act engine site).1.1 with
  | true => exact .inr fun _ => rfl
  | false =>
      by_cases h : c.Candid
      · obtain ⟨r, mem, hr⟩ := hcandid h engine site hanswer
        exact .inl (Engine.errors_pos_submitAll_of_mem mem hr engine)
      · exact .inr fun h' => absurd h' h

/-- **A refusal ends the run**, as fatal. -/
theorem ended_of_refused {p : Phase} {x : Affairs} (h : Within p S (Behind g (OnlyAt [])) x ∧
      (0 < x.errors ∨ (c.Candid → false = true))) : Ended c g S (FatalIn p []) (.fatal p) x :=
  ⟨⟨_, h.1.setup, rfl⟩, fun hc => ⟨h.2.resolve_right fun hgranted => absurd (hgranted hc) nofun, rfl⟩,
    fun hfatal _ => ⟨rfl, h.1.watch hfatal⟩⟩

/-- **The predefined types.**  Behind an error that comes with a success nobody checks for it. -/
theorem does_coreTypes :
    Does c g .coreTypes .tree (Settled S (Checked g (OnlyAt []))) (coreTypes c)
      (fun _ => Within .coreTypes S (Behind g (OnlyAt []))) (Ended c g S (FatalIn .coreTypes [])) := by
  refine Does.first does_enter (fun _ => ?_) (by decide)
  refine does_look (fun s s' h => by rw [h.resolver]) fun s _ => ?_
  refine Does.andThen (does_consult_refusing ⟨rfl, nofun, nofun⟩ rfl nofun
    consults_checked (fun _ hc => hc.resolveCoreTypes _) fun h => h.coreTypes _) (fun granted => ?_)
    (by decide) le_rfl
  cases granted with
  | true => exact .pure _ fun _ h => h.1
  | false => exact .throw _ fun _ => ended_of_refused

/-- **The tree** is resolved whether or not there are errors; it is populated, and its types are
defined, behind a gate. -/
theorem does_resolveTree (errors : Nat) :
    Does c g .tree .documentation (Settled S (From g errors (OnlyAt []))) (resolveTree c)
      (fun _ => Within .resolveTree S (Checked g (· = calledBehind errors .tree)))
      (Ended c g S (EndsAs (.fatal .resolveTree) (· = calledBehind errors .tree))) := by
  refine does_announce ?_ (by decide)
  refine Does.andThen (does_rework ⟨rfl, nofun, nofun⟩ rfl nofun consults_from
    fun _ hc => hc.resolveTree) (fun _ => ?_) (by decide) (by decide)
  refine Does.first (does_gate_behind endsAs_of) (fun _ => ?_) (by decide)
  refine Does.first (does_lap _) (fun _ => ?_) (by decide)
  refine does_look (fun s s' h => by rw [h.config]) fun s _ => ?_
  refine Does.andThen (does_rework ⟨rfl, nofun, nofun⟩ rfl (fun _ _ _ h => h.1.1)
    consults_clear fun _ hc => hc.populate _) (fun _ => ?_) (by decide) (by decide)
  refine Does.first (does_check endsAs_of) (fun _ => ?_) (by decide)
  refine Does.andThen (does_rework ⟨rfl, nofun, nofun⟩ rfl nofun consults_checked
    fun _ hc => hc.defineTypes) (fun _ => ?_) (by decide) le_rfl
  exact Does.first (does_lap _) (fun _ => does_check endsAs_of) le_rfl

/-- **Documentation.**  No gate stands ahead of the exporter: it is the stage that looks at the count
itself.  Behind an error that comes with a success nobody checks for it. -/
theorem does_documentation :
    Does c g .documentation .usings (Settled S (Checked g (OnlyAt []))) (documentation c)
      (fun _ => Within .documentation S (Behind g (OnlyAt [])))
      (Ended c g S (FatalIn .documentation [])) := by
  have hskip : Does c g .documentation .usings (Within .documentation S (Checked g (OnlyAt [])))
      (pure () : Stage σ Unit) (fun _ => Within .documentation S (Behind g (OnlyAt [])))
      (Ended c g S (FatalIn .documentation [])) :=
    Does.upTo (.pure () fun _ h => h.mono behind_of_checked) (by decide) rfl
  refine Does.first does_enter (fun _ => ?_) (by decide)
  refine .look (fun s s' h => by rw [h.config, h.hasErrors, h.tree]) fun s late _ hstart => ?_
  split
  · exact hskip.pre fun _ heq => heq ▸ hstart
  · split
    · exact hskip.pre fun _ heq => heq ▸ hstart
    · rename_i hnone
      have hstart' : Within .documentation S (fun n late => n = 0 ∧ Checked g (OnlyAt []) n late)
          (s.affairs late) :=
        ⟨⟨hstart.setup, Nat.eq_zero_of_not_pos fun hpos => hnone (decide_eq_true hpos),
          hstart.watch⟩, hstart.phase⟩
      refine Does.andThen (Does.pre (does_consult_refusing ⟨rfl, nofun, nofun⟩ rfl
        (fun _ _ _ h => h.1) (fun n n' late h hle => consults_checked n n' late h.2 hle)
        (fun _ hc => hc.exportDocs _ _) fun h => h.documentation _ _) fun _ heq => heq ▸ hstart')
        (fun granted => ?_) (by decide) le_rfl
      cases granted with
      | true => exact (does_lap _).post fun _ _ h => h.1
      | false => exact does_throw_bind fun _ => ended_of_refused

/-- **Using aliases** are verified whether or not there are errors. -/
theorem does_verifyUsing (errors : Nat) :
    Does c g .usings .attributes (Settled S (From g errors (OnlyAt []))) (verifyUsing c)
      (fun _ => Within .verifyUsing S (Clear g (· = calledBehind errors .usings)))
      (Ended c g S (EndsAs (.fatal .verifyUsing) (· = calledBehind errors .usings))) := by
  refine Does.first does_enter (fun _ => ?_) (by decide)
  refine does_look (fun s s' h => by rw [h.tree]) fun s _ => ?_
  exact Does.andThen (does_review ⟨rfl, nofun, nofun⟩ rfl nofun consults_from
    fun _ hc => hc.verifyUsing _) (fun _ => does_gate_behind endsAs_of) (by decide) le_rfl

/-- **Attributes** are resolved, and compliance is verified whether or not they have errors. -/
theorem does_assemblyAttributes :
    Does c g .attributes .code (Settled S Calm) (assemblyAttributes c)
      (fun _ => Within .assemblyAttributes S Calm)
      (Ended c g S (FatalIn .assemblyAttributes [.complianceMark, .compliance])) := by
  refine Does.first does_enter (fun _ => ?_) (by decide)
  refine does_look (fun s s' h => by rw [h.tree, h.config, h.resolver]) fun s _ => ?_
  have hattributes : Consults .attributes Calm
      (Behind g (OnlyAt [.complianceMark, .compliance])) := consults_calm onlyAt_nil
  refine Does.andThen (does_review ⟨rfl, nofun, nofun⟩ rfl (fun _ _ _ h => h.1)
    hattributes fun _ hc => hc.resolveAttributes _) (fun _ => ?_) (by decide) (by decide)
  dsimp only
  split
  · refine Does.andThen (does_ask_open ⟨rfl, nofun, nofun⟩ rfl nofun
      (consults_onlyAt (by decide)).asks) (fun compliant => ?_) (by decide) (by decide)
    split
    · exact Does.andThen (does_review ⟨rfl, nofun, nofun⟩ rfl nofun
        (consults_onlyAt (by decide)) fun _ hc => hc.verifyCompliance _ _)
        (fun _ => does_gate endsAs_of) (by decide) le_rfl
    · exact Does.upTo (does_gate endsAs_of) (by decide) rfl
  · exact Does.upTo (does_gate endsAs_of) (by decide) rfl

/-! ## From emitting code -/

/-- **Code** is emitted, and the entry point found with it. -/
theorem does_emit :
    Does c g .code .closing (Settled S Calm) (emit c) (fun _ => Within .emit S Calm)
      (Ended c g S (FatalIn .emit [])) := by
  refine does_announce ?_ (by decide)
  refine does_look (fun s s' h => by rw [h.tree, h.config]) fun s _ => ?_
  have hcode : Consults .code Calm (Behind g (OnlyAt [])) := consults_calm onlyAt_nil
  refine Does.andThen (does_consult_open ⟨rfl, nofun, nofun⟩ rfl (fun _ _ _ h => h.1)
    hcode fun _ hc => hc.emit _ _) (fun entryPoint => ?_) (by decide) le_rfl
  refine Does.first (does_modify (fun _ => ⟨rfl, rfl, rfl, rfl, rfl⟩)
    fun _ _ _ h => { h with entryPoint := rfl }) (fun _ => ?_) le_rfl
  exact does_lap_gate endsAs_of

/-- **Types** are closed by a collaborator that cannot report. -/
theorem does_closeTypes :
    Does c g .closing .entryPoint (Settled S Calm) (do closeTypes c; stopIfFatal)
      (fun _ => Within .closeTypes S Calm) (Ended c g S (FatalIn .closeTypes [])) := by
  have hclose : Does c g .closing .entryPoint (Settled S Calm) (closeTypes c)
      (fun _ => Within .closeTypes S Calm) (Ended c g S (FatalIn .closeTypes [])) := by
    refine does_announce ?_ (by decide)
    refine does_look (fun s s' h => by rw [h.tree]) fun s _ => ?_
    refine Does.andThen (does_ask_open ⟨rfl, nofun, nofun⟩ rfl (fun _ _ _ h => h.1)
      asks_calm) (fun tree => ?_) (by decide) le_rfl
    exact does_modify (fun _ => ⟨rfl, rfl, rfl, rfl, rfl⟩) fun _ _ _ h => { h with tree := rfl }
  refine Does.andThen hclose (fun _ => Does.post (does_stopIfFatal ?_) fun _ _ h => h.1) (by decide)
    le_rfl
  exact fun _ x hx hpos => absurd hx.watch.1 hpos.ne'

/-- **A program without an entry point has an error**: either it is counted already, or the report says
so. -/
theorem errors_of_missingEntryPoint {s : Session σ} :
    (missingEntryPoint? s = none → 0 < s.engine.errors) ∧
      ∀ r, missingEntryPoint? s = some r → r.diagnostic.severity = .error := by
  unfold missingEntryPoint?
  split
  · split
    · exact ⟨nofun, by rintro r ⟨⟩; rfl⟩
    · split
      · exact ⟨nofun, by rintro r ⟨⟩; rfl⟩
      · exact ⟨nofun, by rintro r ⟨⟩; rfl⟩
  · split
    · rename_i herrors
      exact ⟨fun _ => of_decide_eq_true herrors, nofun⟩
    · exact ⟨nofun, by rintro r ⟨⟩; rfl⟩

/-- **The entry point** of a program is defined, and the run is halted without one.  Behind a main class
where none may be nobody checks for errors. -/
theorem does_entryPoint :
    Does c g .entryPoint .resources (Settled S Calm) (entryPoint c)
      (fun _ => Within .entryPoint S (Behind g (OnlyAt [])))
      (Ended c g S (EndsAs (.halted .entryPoint) (OnlyAt []))) := by
  refine Does.first does_enter (fun _ => ?_) (by decide)
  refine .look (fun s s' h => by rw [h.config, h.entryPoint, h.missingEntryPoint?_eq])
    fun s late _ hstart => ?_
  have hcalm : ∀ x, x = s.affairs late → Within .entryPoint S Calm x := fun _ heq => heq ▸ hstart
  split
  · split
    · exact Does.upTo (Does.pre (does_tell _ (lasts_calm onlyAt_nil)) hcalm) (by decide) rfl
    · exact Does.upTo (.pure () fun x hx => (hcalm x hx).mono (behind_of_calm onlyAt_nil)) (by decide)
        rfl
  · split
    · refine Does.first (does_log _ _) (fun _ => Does.pre (Does.post (does_ask_open
        ⟨rfl, nofun, nofun⟩ rfl (fun _ _ _ h => h.1) asks_calm) fun _ _ h => ?_) hcalm)
        (by decide)
      exact h.mono (behind_of_calm onlyAt_nil)
    · split
      · rename_i r hmissing
        refine Does.pre (does_report_throw (errors_of_missingEntryPoint.2 r hmissing) rfl
          (fun _ n late h => ⟨rfl, onlyAt_nil_iff.mpr h.2⟩) (by decide)) hcalm
      · rename_i hnone
        -- Only an error could keep the report back, and there was none.
        exact absurd hstart.watch.1 (errors_of_missingEntryPoint.1 hnone).ne'

/-- **Resources** are emitted one after another, and between two nobody checks for errors.  A module has
none, and is halted for them. -/
theorem does_emitResources :
    Does c g .resources .nativeResources (Settled S (Behind g (OnlyAt []))) (emitResources c)
      (fun _ => Within .emitResources S (Behind g (OnlyAt [.resources])))
      (Ended c g S (EndsAs (.halted .emitResources) (OnlyAt []))) := by
  have hmore : ∀ n late, Behind g (OnlyAt []) n late → Behind g (OnlyAt [.resources]) n late :=
    behind_mono (List.nil_subset _)
  refine Does.first does_enter (fun _ => ?_) (by decide)
  refine does_look (fun s s' h => by rw [h.config]) fun s _ => ?_
  dsimp only
  split
  · exact Does.upTo (.pure () fun _ h => h.mono hmore) (by decide) rfl
  · split
    · exact does_report_throw rfl rfl (fun hfatal _ _ h => ⟨rfl, h hfatal⟩) (by decide)
    · refine Does.andThen (Does.pre (does_job (ResourceTable.does_emitAll _) rfl rfl rfl
        (List.mem_singleton_self _)) fun _ h => h.mono hmore) (fun emitted => ?_) (by decide) le_rfl
      refine Does.first (does_modify (fun _ => ⟨rfl, rfl, rfl, rfl, rfl⟩)
        fun _ _ _ h => { h with config := by dsimp only; rw [h.config] }) (fun _ => ?_) le_rfl
      exact does_log _ _

/-! ### Native resources -/

/-- Behind an error somebody was called, and at these stations only. -/
def Heedless (errors : Nat) (A late : List Station) : Prop :=
  OnlyAt A late ∧ (0 < errors → late ≠ [])

/-- Who is called first is called behind the errors counted. -/
theorem consults_heedless {errors : Nat} {A : List Station} {st : Station} (hst : st ∈ A) :
    Asks st (From g errors (OnlyAt A)) (Behind g (Heedless errors A)) := by
  rintro n late ⟨rfl, hlate⟩ hfatal
  refine ⟨(hlate hfatal).append (onlyAt_calledBehind n hst), fun hpos hnone => ?_⟩
  rw [List.append_eq_nil_iff] at hnone
  unfold calledBehind at hnone
  rw [if_pos hpos] at hnone
  cases hnone.2

/-- And then it stays so. -/
theorem asks_heedless {errors : Nat} {A : List Station} {st : Station} (hst : st ∈ A) :
    Asks st (Behind g (Heedless errors A)) (Behind g (Heedless errors A)) := fun n _ h hfatal =>
  ⟨(h hfatal).1.append (onlyAt_calledBehind n hst), fun hpos hnone =>
    (h hfatal).2 hpos (List.append_eq_nil_iff.mp hnone).1⟩

section NativeResources

variable {errors : Nat} {A : List Station} {E : Stop → Condition}

/-- **A file of the output** is handed to a backend that supports it; the backend is called in any
case. -/
theorem does_ifSupported {capability : Capability} {call : Call} (what : String) (path : Path)
    (supports : Act σ Bool) (define : Act σ (Except Fault Unit)) (feature : String)
    (hA : .nativeResources ∈ A) (hcapability : (Call.supports capability).At .nativeResources)
    (hcall : call.At .nativeResources)
    (hfirst : Asks .nativeResources W (Behind g (Heedless errors A))) :
    Does c g .nativeResources .saving (Within .nativeResources S W) (do
      if ← ask (.supports capability) supports then
        match ← ask call define with
        | .ok () => pure ()
        | .error fault => unreadableResource what path fault
      else report (.missingSupport feature))
      (fun _ => Within .nativeResources S (Behind g (Heedless errors A))) E := by
  refine Does.bind (does_ask_open hcapability rfl nofun hfirst) (fun supported => ?_) (.again rfl rfl)
  split
  · refine Does.andThen (does_ask_open hcall rfl nofun (asks_heedless hA)) (fun answer => ?_)
      (by decide) le_rfl
    split
    · exact .pure () fun _ => id
    · exact Does.first (does_log _ _) (fun _ => does_tell _ lasts_behind) le_rfl
  · exact Does.upTo (does_report_missingSupport _) (by decide) rfl

theorem does_defineNativeResource (hA : .nativeResources ∈ A) (path? : Option Path) :
    Does c g .nativeResources .saving (Within .nativeResources S (From g errors (OnlyAt A)))
      (defineNativeResource c path?)
      (fun _ => Within .nativeResources S (Behind g (Heedless errors A))) E := by
  cases path? with
  | none =>
      exact does_ask_open ⟨rfl, nofun, nofun⟩ rfl nofun (consults_heedless hA)
  | some path =>
      exact does_ifSupported "native resource" path _ _ _ hA ⟨rfl, nofun, nofun⟩
        ⟨rfl, nofun, nofun⟩ (consults_heedless hA)

theorem does_defineIcon (hA : .nativeResources ∈ A) (path? : Option Path) :
    Does c g .nativeResources .saving (Within .nativeResources S (Behind g (Heedless errors A)))
      (defineIcon c path?)
      (fun _ => Within .nativeResources S (Behind g (Heedless errors A))) E := by
  cases path? with
  | none => exact Does.upTo (.pure () fun _ => id) (by decide) rfl
  | some path =>
      exact does_ifSupported "icon" path _ _ _ hA ⟨rfl, nofun, nofun⟩
        ⟨rfl, nofun, nofun⟩ (asks_heedless hA)

/-- **Native resources** are defined whether or not there are errors, and somebody is called for them in
any case. -/
theorem does_nativeResources (hA : .nativeResources ∈ A) :
    Does c g .nativeResources .saving (Settled S (From g errors (OnlyAt A)))
      (do nativeResources c; stopIfFatal)
      (fun _ => Within .nativeResources S (Checked g (Heedless errors A)))
      (Ended c g S (EndsAs (.fatal .nativeResources) (Heedless errors A))) := by
  have hdefine : Does c g .nativeResources .saving (Settled S (From g errors (OnlyAt A)))
      (nativeResources c) (fun _ => Within .nativeResources S (Behind g (Heedless errors A)))
      (Ended c g S (EndsAs (.fatal .nativeResources) (Heedless errors A))) := by
    refine Does.first does_enter (fun _ => ?_) (by decide)
    refine does_look (fun s s' h => by rw [h.config]) fun s _ => ?_
    exact Does.bind (does_defineNativeResource hA _) (fun _ => does_defineIcon hA _) (.again rfl rfl)
  exact Does.andThen hdefine (fun _ => does_check endsAs_of) (by decide) le_rfl

end NativeResources

/-! ### Saving -/

/-- What is settled once the output is saved. -/
def savedAs (su : Setup) (path : Path) : Setup := { su with saves := su.saves ++ [(path, true)] }

/-- **The output has been saved** under its path. -/
def Saved (S : Setup → Prop) (su' : Setup) : Prop :=
  ∃ su path, S su ∧ su.output = some path ∧ su' = savedAs su path

/-- The backend has been asked to save the output under its path, and has or has not. -/
def AskedToSave (S : Setup → Prop) (path : Path) (saved : Bool) (su' : Setup) : Prop :=
  ∃ su, S su ∧ su.output = some path ∧ su' = { su with saves := su.saves ++ [(path, saved)] }

/-- What was not saved is not among what is saved. -/
theorem saved_of_askedToSave {path : Path} :
    ∀ su', AskedToSave S path false su' → ∃ su, S su ∧ su'.saved = su.saved := by
  rintro _ ⟨su, hsu, -, rfl⟩
  refine ⟨su, hsu, ?_⟩
  unfold Setup.saved
  rw [List.filter_append]
  exact congrArg _ (List.append_nil _)

/-- **Saving** comes to its end exactly when the backend has saved the output. -/
theorem does_save {L : List Station → Prop} (hS : ∀ su, S su → su.output.isSome = true) :
    Does c g .saving .finished (Settled S (Checked g L)) (save c)
      (fun _ => Within .save (Saved S) Calm)
      (Ended c g S (EndsAs (.halted .save) (OnlyAt []))) := by
  refine Does.first does_enter (fun _ => Does.first does_gate_checked (fun _ => ?_) (by decide))
    (by decide)
  refine .look (fun s s' h => by rw [h.output, h.config]) fun s late _ hstart => ?_
  have houtput : s.output.isSome = true := hS _ hstart.setup
  split
  · rename_i hnone
    rw [hnone] at houtput
    cases houtput
  · rename_i path hpath
    have hsave : Does c g (Call.save path s.config.debugInfo).station .finished
        (· = s.affairs late)
        (ask (.save path s.config.debugInfo) (c.output.save path s.config.debugInfo))
        (fun answer => Within .save (AskedToSave S path answer.toBool) Calm)
        (Ended c g S (EndsAs (.halted .save) (OnlyAt []))) := by
      refine Does.ask rfl nofun ?_ (fun _ _ => Act.alike_at rfl rfl) ?_
      · rintro - x rfl
        exact hstart.watch.1
      · rintro x site rfl
        exact ⟨⟨⟨_, hstart.setup, hpath, rfl⟩, asks_calm _ _ hstart.watch⟩, hstart.phase⟩
    refine Does.andThen hsave (fun answer => ?_) (by decide) le_rfl
    cases answer with
    | error fault =>
        exact Does.ended (does_report_throw rfl rfl
          (fun _ n late h => ⟨rfl, onlyAt_nil_iff.mpr h.2⟩) le_rfl) saved_of_askedToSave fun _ _ => id
    | ok _ =>
        refine Does.first (does_log _ _) (fun _ => Does.first (does_lap _) (fun _ => ?_) le_rfl) le_rfl
        refine Does.post (does_lap _) fun _ x hx => ⟨⟨?_, hx.watch⟩, hx.phase⟩
        obtain ⟨su, hsu, houtput, hsetup⟩ := hx.setup
        exact ⟨su, path, hsu, houtput, hsetup⟩

end Stage

end BatchCompiler

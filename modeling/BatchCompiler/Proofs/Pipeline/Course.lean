import BatchCompiler.Proofs.Pipeline.Legs

/-!
# The course of a run

The legs of a run lead from the condition of one stage to that of the next.  So all that holds of what is
made of operations holds of a whole run: its calls are a stretch, it comes to its end without an error,
and when it is ended early nothing has been saved.

## Main definitions

* `Stage.Excused` — what is known when a run is ended early
* `Stage.Leads` — legs that lead from one condition to another
* `Stage.courseEnd`, `Stage.Done` — where a course comes to its end, and how matters stand there

## Main statements

* `Stage.Leads.does` — legs in turn are made of operations
* `Stage.leads_course` — where the course of a run leads
* `Session.run_covers`, `Session.run_advances` — what a run covers
-/

namespace BatchCompiler

variable {σ : Type}

open Watch

namespace Stage

variable {c : Collaborators σ} {g : Terms} {S : Setup → Prop} {lo mid hi : Station}
  {P P' R Q : Condition} {E : Stop → Condition} {legs more rest : List (Leg σ)}

/-! ## Legs one after another -/

/-- **What is known when a run is ended early**: nothing has been saved, and with candid collaborators
the run is ended by errors that have been counted. -/
abbrev Excused (c : Collaborators σ) (g : Terms) (S : Setup → Prop) : Stop → Condition :=
  Ended c g S fun _ _ => True

/-- **Legs that lead from one condition to another**: every leg comes to its end in its phase, and the
next one goes on from there. -/
inductive Leads (c : Collaborators σ) (g : Terms) (E : Stop → Condition) :
    Station → Station → Condition → List (Leg σ) → Condition → Prop
  | nil {lo : Station} {P Q : Condition} (hQ : ∀ x, P x → Q x) : Leads c g E lo lo P [] Q
  | cons {lo mid hi : Station} {P R P' Q : Condition} {p : Phase} {m : Stage σ Unit}
      {rest : List (Leg σ)} (hm : Does c g lo mid P m (fun _ => R) E)
      (hphase : ∀ x, R x → x.phase = p) (hgo : ∀ x, R x → P' x)
      (hrest : Leads c g E mid hi P' rest Q) (hlo : lo.rank ≤ mid.rank)
      (hhi : mid.rank ≤ hi.rank) : Leads c g E lo hi P ((p, m) :: rest) Q

namespace Leads

theorem le (h : Leads c g E lo hi P legs Q) : lo.rank ≤ hi.rank := by
  cases h with
  | nil => exact le_rfl
  | cons _ _ _ _ hlo hhi => exact hlo.trans hhi

theorem pre (h : Leads c g E lo hi P legs Q) (hP : ∀ x, P' x → P x) :
    Leads c g E lo hi P' legs Q := by
  cases h with
  | nil hQ => exact .nil fun x h => hQ x (hP x h)
  | cons hm hphase hgo hrest hlo hhi => exact .cons (hm.pre hP) hphase hgo hrest hlo hhi

theorem append (h : Leads c g E lo mid P legs R) (h' : Leads c g E mid hi R more Q) :
    Leads c g E lo hi P (legs ++ more) Q := by
  induction h with
  | nil hQ => exact h'.pre hQ
  | cons hm hphase hgo _ hlo hhi ih => exact .cons hm hphase hgo (ih h') hlo (hhi.trans h'.le)

/-- **Legs in turn** are made of operations if each of them is. -/
theorem does (h : Leads c g E lo hi P legs Q) : Does c g lo hi P (inTurn legs) (fun _ => Q) E := by
  induction h with
  | nil hQ => exact .pure () hQ
  | cons hm _ hgo _ hlo hhi ih => exact Does.andThen (hm.post fun _ => hgo) (fun _ => ih) hlo hhi

/-- **A leg of a run**, ended early for whatever reason. -/
theorem leg {S' S'' : Setup → Prop} {W W' : Watch} {X : Stop → List Station → Prop} {p : Phase}
    {m : Stage σ Unit}
    (hm : Does c g lo mid P m (fun _ => Within p S' W) (Ended c g S'' X))
    (hS : ∀ su', S'' su' → ∃ su, S su ∧ su'.saved = su.saved)
    (hW : ∀ n late, W n late → W' n late)
    (hrest : Leads c g (Excused c g S) mid hi (Settled S' W') rest Q) (hlo : lo.rank ≤ mid.rank)
    (hhi : mid.rank ≤ hi.rank) : Leads c g (Excused c g S) lo hi P ((p, m) :: rest) Q :=
  .cons (hm.ended hS fun _ _ _ => trivial) (fun _ h => h.phase) (fun _ h => h.toSettled.mono hW)
    hrest hlo hhi

/-- **The last leg.** -/
theorem last {S' S'' : Setup → Prop} {W : Watch} {X : Stop → List Station → Prop} {p : Phase}
    {m : Stage σ Unit}
    (hm : Does c g lo hi P m (fun _ => Within p S' W) (Ended c g S'' X))
    (hS : ∀ su', S'' su' → ∃ su, S su ∧ su'.saved = su.saved) (hle : lo.rank ≤ hi.rank) :
    Leads c g (Excused c g S) lo hi P [(p, m)] (Within p S' W) :=
  .cons (hm.ended hS fun _ _ _ => trivial) (fun _ h => h.phase) (fun _ => id) (.nil fun _ => id)
    hle le_rfl

end Leads

/-! ## The legs of a run -/

theorem saved_same : ∀ su', S su' → ∃ su, S su ∧ su'.saved = su.saved := fun su h => ⟨su, h, rfl⟩

/-- Opening the output saves nothing. -/
theorem saved_of_opened : ∀ su', Opened S su' → ∃ su, S su ∧ su'.saved = su.saved := by
  rintro _ ⟨su, path, hsu, rfl⟩
  exact ⟨su, hsu, rfl⟩

theorem isSome_output_of_opened : ∀ su', Opened S su' → su'.output.isSome = true := by
  rintro _ ⟨su, path, -, rfl⟩
  rfl

/-- **From the default references to the tree.** -/
def treeLegs (c : Collaborators σ) : List (Leg σ) :=
  [(.configureDefaults, configureDefaults),
   (.loadReferences, loadReferences c),
   (.outputIdentity, outputIdentity c),
   (.loadModules, do loadModules c; stopIfFatal),
   (.coreTypes, coreTypes c),
   (.resolveTree, resolveTree c)]

/-- **The legs up to the tree** open the output. -/
theorem leads_treeLegs :
    Leads c g (Excused c g S) .references .documentation (Settled S Calm) (treeLegs c)
      (Within .resolveTree (Opened S) (Checked g (OnlyAt []))) := by
  have htree : Does c g .tree .documentation (Settled (Opened S) (Behind g (OnlyAt [])))
      (resolveTree c) (fun _ => Within .resolveTree (Opened S) (Checked g (OnlyAt [])))
      (Excused c g (Opened S)) :=
    does_of_from fun errors => ((does_resolveTree errors).post fun _ _ h => h.mono checked_onlyAt).ended
      saved_same fun _ _ _ => trivial
  refine .leg does_configureDefaults saved_same (fun _ _ => id) ?_ le_rfl (by decide)
  refine .leg does_loadReferences saved_same (fun _ _ => id) ?_ (by decide) (by decide)
  refine .leg does_outputIdentity saved_same (fun _ _ => id) ?_ (by decide) (by decide)
  refine .leg does_loadModules saved_of_opened (checked_onlyAt (A := [])) ?_ (by decide) (by decide)
  refine .leg does_coreTypes saved_of_opened (fun _ _ => id) ?_ (by decide) (by decide)
  exact .last htree saved_of_opened (by decide)

/-- **From the using aliases to the attributes.** -/
def attributeLegs (c : Collaborators σ) : List (Leg σ) :=
  [(.verifyUsing, verifyUsing c), (.assemblyAttributes, assemblyAttributes c)]

theorem leads_attributeLegs {S' : Setup → Prop}
    (hS : ∀ su', S' su' → ∃ su, S su ∧ su'.saved = su.saved) :
    Leads c g (Excused c g S) .usings .code (Settled S' (Behind g (OnlyAt []))) (attributeLegs c)
      (Within .assemblyAttributes S' Calm) := by
  have husing : Does c g .usings .attributes (Settled S' (Behind g (OnlyAt []))) (verifyUsing c)
      (fun _ => Within .verifyUsing S' Calm) (Excused c g S') :=
    does_of_from fun errors => ((does_verifyUsing errors).post
      fun _ _ h => h.mono fun _ _ h => h.1).ended saved_same fun _ _ _ => trivial
  refine .leg husing hS (fun _ _ => id) ?_ (by decide) (by decide)
  exact .last does_assemblyAttributes hS (by decide)

theorem frontLegs_eq (c : Collaborators σ) :
    frontLegs c = treeLegs c ++ (.documentation, documentation c) :: attributeLegs c := rfl

/-- **The legs up to the attributes** open the output and leave no error. -/
theorem leads_frontLegs :
    Leads c g (Excused c g S) .references .code (Settled S Calm) (frontLegs c)
      (Within .assemblyAttributes (Opened S) Calm) := by
  rw [frontLegs_eq]
  refine leads_treeLegs.append (Leads.pre (.leg does_documentation saved_of_opened (fun _ _ => id)
    (leads_attributeLegs saved_of_opened) (by decide) (by decide)) fun _ h => h.toSettled)

/-- **The legs ahead of emitting code.** -/
def aheadLegs (c : Collaborators σ) : List (Leg σ) := (.parse, parse c) :: frontLegs c

/-- **The legs ahead of emitting code** come to their end without an error, and call nobody whose work
belongs behind them. -/
theorem leads_aheadLegs :
    Leads c g (Excused c g S) .sources .code (Settled S (Behind g (OnlyAt []))) (aheadLegs c)
      (Within .assemblyAttributes (Opened S) Calm) :=
  .leg does_parse saved_same (fun _ _ => id) leads_frontLegs (by decide) (by decide)

/-- **From the resources to the end.** -/
def savingLegs (c : Collaborators σ) : List (Leg σ) :=
  [(.emitResources, emitResources c),
   (.nativeResources, do nativeResources c; stopIfFatal),
   (.save, save c)]

/-- **The legs behind the entry point** save an output that is open. -/
theorem leads_savingLegs {S' : Setup → Prop}
    (hS : ∀ su', S' su' → ∃ su, S su ∧ su'.saved = su.saved)
    (hopen : ∀ su, S' su → su.output.isSome = true) :
    Leads c g (Excused c g S) .resources .finished (Settled S' (Behind g (OnlyAt [])))
      (savingLegs c) (Within .save (Saved S') Calm) := by
  have hnative : Does c g .nativeResources .saving
      (Settled S' (Behind g (OnlyAt [.resources, .nativeResources])))
      (do nativeResources c; stopIfFatal)
      (fun _ => Within .nativeResources S' (Checked g (OnlyAt []))) (Excused c g S') :=
    does_of_from fun errors => ((does_nativeResources (by decide)).post
      fun _ _ h => h.mono checked_onlyAt).ended saved_same fun _ _ _ => trivial
  have hmore : ∀ n late, Behind g (OnlyAt [.resources]) n late →
      Behind g (OnlyAt [.resources, .nativeResources]) n late := behind_mono (by decide)
  refine .leg does_emitResources hS hmore ?_ (by decide) (by decide)
  refine .leg hnative hS (fun _ _ => id) ?_ (by decide) (by decide)
  exact .last (does_save hopen) hS (by decide)

/-- **From emitting code to the entry point.** -/
def entryLegs (c : Collaborators σ) : List (Leg σ) :=
  [(.emit, emit c),
   (.closeTypes, do closeTypes c; stopIfFatal),
   (.entryPoint, entryPoint c)]

theorem leads_entryLegs {S' : Setup → Prop}
    (hS : ∀ su', S' su' → ∃ su, S su ∧ su'.saved = su.saved) :
    Leads c g (Excused c g S) .code .resources (Settled S' Calm) (entryLegs c)
      (Within .entryPoint S' (Behind g (OnlyAt []))) := by
  refine .leg does_emit hS (fun _ _ => id) ?_ (by decide) (by decide)
  refine .leg does_closeTypes hS (fun _ _ => id) ?_ (by decide) (by decide)
  exact .last does_entryPoint hS (by decide)

theorem backLegs_eq (c : Collaborators σ) : backLegs c = entryLegs c ++ savingLegs c := rfl

/-- **The legs from emitting code** save an output that is open. -/
theorem leads_backLegs {S' : Setup → Prop}
    (hS : ∀ su', S' su' → ∃ su, S su ∧ su'.saved = su.saved)
    (hopen : ∀ su, S' su → su.output.isSome = true) :
    Leads c g (Excused c g S) .code .finished (Settled S' Calm) (backLegs c)
      (Within .save (Saved S') Calm) := by
  rw [backLegs_eq]
  exact (leads_entryLegs hS).append ((leads_savingLegs hS hopen).pre fun _ h => h.toSettled)

/-- The station where a course comes to its end. -/
def courseEnd (last : Phase) (config : Config) : Station :=
  if last = .parse then .references
  else if config.stopsAfterParsing then .references
  else if last.rank < Phase.emit.rank then .code
  else .finished

/-- **How matters stand at the end of a course**: in the phase of the last leg and without an error; the
output is open if the course goes on behind parsing, and saved if it goes on to the end. -/
def Done (last : Phase) (config : Config) (S : Setup → Prop) : Condition :=
  if last = .parse then Within .parse S Calm
  else if config.stopsAfterParsing then Within .parse S Calm
  else if last.rank < Phase.emit.rank then Within .assemblyAttributes (Opened S) Calm
  else Within .save (Saved (Opened S)) Calm

theorem Done.errors_eq_zero {last : Phase} {config : Config} {x : Affairs}
    (h : Done last config S x) : x.errors = 0 := by
  unfold Done at h
  split at h
  · exact h.watch.1
  · split at h
    · exact h.watch.1
    · split at h
      · exact h.watch.1
      · exact h.watch.1

theorem Done.saved {config : Config} {x : Affairs} (h : Done .save config S x)
    (hgoes : config.stopsAfterParsing = false) : Within .save (Saved (Opened S)) Calm x := by
  unfold Done at h
  rwa [if_neg (by decide), hgoes, if_neg (by decide), if_neg (by decide)] at h

/-- **The course of a run** leads to its end. -/
theorem leads_course (last : Phase) (config : Config) :
    Leads c g (Excused c g S) .sources (courseEnd last config)
      (Settled S (Behind g (OnlyAt []))) (course c last config) (Done last config S) := by
  unfold course courseEnd Done
  split
  · exact .last does_parse saved_same (by decide)
  · split
    · exact .last does_parse saved_same (by decide)
    · split
      · rw [List.append_nil]
        exact leads_aheadLegs
      · exact leads_aheadLegs.append ((leads_backLegs saved_of_opened isSome_output_of_opened).pre
          fun _ h => h.toSettled)

end Stage

namespace Session

open Stage

/-- A session that has not been run yet goes through the stages. -/
theorem run_of_ready {s : Session σ} (hready : s.finished = false) (c : Collaborators σ)
    (last : Phase) :
    s.run c last = match perform (toPhase c last) { s with finished := true } with
      | (.ok (), s') => (.ok s'.outcome, s')
      | (.error stop, s') => (.error stop, s') := by
  unfold run
  rw [hready]
  rfl

/-- A session that has not been run yet goes through the course of its configuration. -/
theorem run_of_course {c : Collaborators σ} {last : Phase} {config : Config} {s : Session σ}
    (hready : s.finished = false) (hconfig : s.config = config) :
    s.run c last = match perform (inTurn (course c last config)) { s with finished := true } with
      | (.ok (), s') => (.ok s'.outcome, s')
      | (.error stop, s') => (.error stop, s') := by
  subst hconfig
  rw [run_of_ready hready, perform_toPhase]

theorem run_snd_of_ready {c : Collaborators σ} {last : Phase} {s : Session σ}
    (hready : s.finished = false) :
    (s.run c last).2 = (perform (toPhase c last) { s with finished := true }).2 := by
  rw [run_of_ready hready]
  rcases perform (toPhase c last) { s with finished := true } with ⟨stop | ⟨⟩, s'⟩
  · rfl
  · rfl

theorem run_error_of_ready {c : Collaborators σ} {last : Phase} {s : Session σ} {stop : Stop}
    (hready : s.finished = false)
    (hstop : (perform (toPhase c last) { s with finished := true }).1 = .error stop) :
    (s.run c last).1 = .error stop := by
  rw [run_of_ready hready]
  rcases hrun : perform (toPhase c last) { s with finished := true } with ⟨stop' | ⟨⟩, s'⟩
  · rw [hrun] at hstop
    exact congrArg Except.error (Except.error.inj hstop)
  · rw [hrun] at hstop
    cases hstop

/-- **What a run covers**, that has not been run yet. -/
theorem run_covers {s : Session σ} (hready : s.finished = false) (c : Collaborators σ)
    (last : Phase) :
    ∃ made, Stretch .sources (courseEnd last s.config) s.bench (s.run c last).2.bench made ∧
      match s.run c last with
      | (.ok outcome, s') => outcome = s'.outcome ∧
          Done last s.config (· = s.setup) (s'.affairs (lateStations made))
      | (.error stop, s') =>
          Excused c s.terms (· = s.setup) stop (s'.affairs (lateStations made)) := by
  obtain ⟨made, hmade, -, hends⟩ := (@leads_course σ c s.terms _ last s.config).does.covers
    { s with finished := true } [] (underWay_start _) (settled_start _)
  rw [← perform_toPhase c last { s with finished := true }] at hmade hends
  refine ⟨made, ?_⟩
  rw [run_of_ready hready]
  rcases hrun : perform (toPhase c last) { s with finished := true } with ⟨stop | _, s'⟩
  · rw [hrun] at hmade hends
    exact ⟨hmade, hends⟩
  · rw [hrun] at hmade hends
    exact ⟨hmade, rfl, hends⟩

/-- **A run is a stretch** from the sources to the end. -/
theorem run_advances (c : Collaborators σ) (last : Phase) (s : Session σ) :
    Advances .sources .finished s.bench (s.run c last).2.bench := by
  cases hready : s.finished with
  | true =>
      unfold run
      rw [hready]
      exact .refl _ _ _
  | false =>
      obtain ⟨made, hmade, -⟩ := run_covers hready c last
      exact ⟨made, hmade.mono le_rfl (Station.rank_le_finished _)⟩

end Session

end BatchCompiler

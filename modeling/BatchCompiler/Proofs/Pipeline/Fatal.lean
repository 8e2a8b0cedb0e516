import BatchCompiler.Proofs.Pipeline.Success

/-!
# Fatal errors

Under fatal errors a run is to end where its first error comes up: nobody is called behind it, and the
run ends as fatal in that phase.  Most phases do so.  Some go on for a while, since nothing checks for
errors between their calls or behind their last one, and some end the run in another way.

## Main definitions

* `calledLate` — somebody was called behind an error
* `Phase.unwatched`, `Phase.Ends` — who may be called behind a first error of a phase, and how the run ends
* `Stage.Watched` — a part of a run as far as its errors go
* `Stage.Heeds` — legs that end as the phase where the first error comes up says
* `Session.firstErrorPhase?` — the phase where the first error of a run comes up

## Main statements

* `Stage.alert_cons`, `Stage.alert_course` — one leg more, and so the course of a run
* `Session.run_of_firstError` — where and how a run ends under fatal errors
* `Session.not_fatal_of_firstError` — it is not always where and how it should
-/

namespace BatchCompiler

variable {σ : Type}

open Watch

/-- **Somebody was called behind an error.** -/
def calledLate (made : List JournalEntry) : Bool := made.any fun e => decide (0 < e.errors)

theorem calledLate_eq_false_iff {made : List JournalEntry} :
    calledLate made = false ↔ ∀ e ∈ made, e.errors = 0 := by
  unfold calledLate
  rw [List.any_eq_false]
  simp

/-- **How a run ends whose first error comes up in a phase.**  It matters whether the output has a
place to go to, and whether somebody was called behind the error. -/
def Phase.Ends (d : Option Path) (late : Bool) (stop : Stop) : Phase → Prop
  | .outputIdentity => stop = if d.isSome then .fatal .outputIdentity else .halted .outputIdentity
  | .coreTypes => stop = .fatal (if late then .resolveTree else .coreTypes)
  | .documentation => stop = .fatal (if late then .verifyUsing else .documentation)
  | .entryPoint =>
      if late then stop = .fatal .nativeResources
      else stop = .halted .entryPoint ∨ stop = .halted .emitResources
  | .emitResources => stop = if late then .fatal .nativeResources else .halted .emitResources
  | .save => stop = .halted .save
  | p => stop = .fatal p

/-- **Who may be called behind a first error of a phase.** -/
def Phase.unwatched : Phase → List Station
  | .loadReferences => [.references]
  | .loadModules => [.modules]
  | .coreTypes => [.tree]
  | .documentation => [.usings]
  | .assemblyAttributes => [.complianceMark, .compliance]
  | .entryPoint | .emitResources => [.resources, .nativeResources]
  | .nativeResources => [.nativeResources]
  | _ => []

/-- Somebody was called behind an error if there is a station of such a call. -/
theorem calledLate_eq (made : List JournalEntry) :
    calledLate made = !(lateStations made).isEmpty := by
  rw [Bool.eq_iff_iff, Bool.not_eq_true', List.isEmpty_eq_false_iff_exists_mem]
  unfold calledLate
  simp only [List.any_eq_true, decide_eq_true_eq, mem_lateStations_iff]
  constructor
  · rintro ⟨e, mem, hpos⟩
    exact ⟨_, e, mem, hpos, rfl⟩
  · rintro ⟨_, e, mem, hpos, -⟩
    exact ⟨e, mem, hpos⟩

namespace Stage

variable {c : Collaborators σ} {d : Option Path} {g : Terms} {lo hi : Station} {P P' Q : Condition}
  {S S' : Setup → Prop} {W W' : Watch} {X X' : Stop → List Station → Prop} {p : Phase}
  {m : Stage σ Unit} {rest : List (Leg σ)}

/-! ## Stages as far as their errors go -/

/-- **A run is ended as one whose first error came up in a phase.** -/
def Answers (d : Option Path) (p : Phase) (stop : Stop) (late : List Station) : Prop :=
  p.Ends d (!late.isEmpty) stop ∧ OnlyAt p.unwatched late

/-- Nobody was called behind the error. -/
theorem answers_atOnce {stop : Stop} (h : p.Ends d false stop) :
    ∀ stop' late, EndsAs stop (OnlyAt []) stop' late → Answers d p stop' late := by
  rintro stop' late ⟨rfl, hlate⟩
  obtain rfl := onlyAt_nil_iff.mp hlate
  exact ⟨h, onlyAt_nil⟩

/-- Nobody can be called behind an error where none is counted. -/
theorem answers_none {stop : Stop} {st : Station} (h : p.Ends d false stop) :
    ∀ stop' late, EndsAs stop (· = calledBehind 0 st) stop' late → Answers d p stop' late :=
  fun stop' late hends => answers_atOnce h stop' late ⟨hends.1, onlyAt_nil_iff.mpr hends.2⟩

/-- Whether somebody was called behind the error does not matter. -/
theorem answers_fatalIn (h : ∀ late, p.Ends d late (.fatal p)) :
    ∀ stop late, FatalIn p p.unwatched stop late → Answers d p stop late := by
  rintro stop late ⟨rfl, hlate⟩
  exact ⟨h _, hlate⟩

/-- **A part of a run as far as its errors go**: where it starts under one condition, it comes to its end
under another, and if it ends the run behind an error, `X` says how. -/
abbrev Watched (g : Terms) (lo hi : Station) (P : Condition) (m : Stage σ Unit) (Q : Condition)
    (X : Stop → List Station → Prop) : Prop :=
  Covers g lo hi P m (fun _ => Q) fun stop x => 0 < x.errors → X stop x.late

/-- **What a stage does, as far as its errors go**, if they are fatal. -/
theorem Does.watched {q : Phase} {S'' : Setup → Prop} (hfatal : g.fatal = true)
    (h : Does c g lo hi (Settled S W) m (fun _ => Within q S' W') (Ended c g S'' X))
    (hX : ∀ stop late, X stop late → X' stop late) :
    Watched g lo hi (Settled S W) m (Settled S' W') X' :=
  h.covers.mono le_rfl le_rfl (fun _ => id) (fun _ _ hx => hx.toSettled)
    fun _ _ hx hpos => hX _ _ (hx.fatal hfatal hpos)

theorem Watched.pre (h : Watched g lo hi P m Q X) (hP : ∀ x, P' x → P x) :
    Watched g lo hi P' m Q X := h.mono le_rfl le_rfl hP (fun _ _ => id) fun _ _ => id

/-- Behind a leg that does not come to its end nothing matters. -/
theorem watched_inTurn_never (hle : lo.rank ≤ hi.rank)
    (h : Watched g lo hi P m (fun _ => False) X) :
    Watched g lo hi P (inTurn ((p, m) :: rest)) (fun _ => False) X :=
  covers_bind (.behind hle le_rfl) h fun _ _ _ _ hnever => hnever.elim

/-! ## Legs on the alert -/

/-- **The first phase at whose end an error is counted.** -/
def firstErrorPhase? : List (Leg σ) → Session σ → Option Phase
  | [], _ => none
  | (phase, m) :: rest, s =>
      match perform m s with
      | (.ok (), s') => if 0 < s'.engine.errors then some phase else firstErrorPhase? rest s'
      | (.error _, s') => if 0 < s'.engine.errors then some phase else none

section Legs

variable {s s' : Session σ} {stop : Stop} {made : List JournalEntry}

theorem firstErrorPhase?_of_error (hrun : perform m s = (.error stop, s')) :
    firstErrorPhase? ((p, m) :: rest) s = if 0 < s'.engine.errors then some p else none := by
  unfold firstErrorPhase?
  rw [hrun]

theorem firstErrorPhase?_of_ok (hrun : perform m s = (.ok (), s')) :
    firstErrorPhase? ((p, m) :: rest) s =
      if 0 < s'.engine.errors then some p else firstErrorPhase? rest s' := by
  conv_lhs => unfold firstErrorPhase?
  rw [hrun]

/-- **Legs that heed errors**: the phase where the first error comes up says how they end, and who is
called behind it. -/
def Heeds (d : Option Path) (legs : List (Leg σ)) (s : Session σ) : Prop :=
  ∃ made, (perform (inTurn legs) s).2.bench.journal = s.bench.journal ++ made ∧
    match firstErrorPhase? legs s with
    | none => (perform (inTurn legs) s).2.engine.errors = 0
    | some p => 0 < (perform (inTurn legs) s).2.engine.errors ∧
        ∃ stop, (perform (inTurn legs) s).1 = .error stop ∧ Answers d p stop (lateStations made)

/-- A leg that ends the run. -/
theorem heeds_of_error (hrun : perform m s = (.error stop, s'))
    (hmade : Stretch lo hi s.bench s'.bench made)
    (hstop : 0 < s'.engine.errors → Answers d p stop (lateStations made)) :
    Heeds d ((p, m) :: rest) s := by
  unfold Heeds
  rw [perform_inTurn_of_error hrun, firstErrorPhase?_of_error hrun]
  refine ⟨made, hmade.journal, ?_⟩
  by_cases hpos : 0 < s'.engine.errors
  · rw [if_pos hpos]
    exact ⟨hpos, stop, rfl, hstop hpos⟩
  · rw [if_neg hpos]
    exact Nat.eq_zero_of_not_pos hpos

/-- A leg that comes to its end behind an error, so that those after it have to end the run. -/
theorem heeds_of_leak {lo' hi' : Station} (hrun : perform m s = (.ok (), s'))
    (hpos : 0 < s'.engine.errors) (hmade : Stretch lo hi s.bench s'.bench made)
    (hs' : s'.UnderWay g (lateStations made)) (hP : P (s'.affairs (lateStations made)))
    (hleak : Watched g lo' hi' P (inTurn rest) (fun _ => False) (Answers d p)) :
    Heeds d ((p, m) :: rest) s := by
  unfold Heeds
  rw [perform_inTurn_of_ok hrun, firstErrorPhase?_of_ok hrun, if_pos hpos]
  obtain ⟨more, hmore, -, hends⟩ := hleak s' _ hs' hP
  rcases hlast : perform (inTurn rest) s' with ⟨stop | _, s''⟩
  · rw [hlast] at hmore hends
    have hpos' : 0 < s''.engine.errors := Nat.lt_of_lt_of_le hpos hmore.errors_le
    refine ⟨made ++ more, ?_, hpos', stop, rfl, ?_⟩
    · rw [hmore.journal, hmade.journal, List.append_assoc]
    · rw [lateStations_append]
      exact hends hpos'
  · rw [hlast] at hends
    exact hends.elim

/-- A leg that comes to its end without an error. -/
theorem heeds_of_calm (hrun : perform m s = (.ok (), s')) (hzero : s'.engine.errors = 0)
    (hmade : Stretch lo hi s.bench s'.bench made) (hrest : Heeds d rest s') :
    Heeds d ((p, m) :: rest) s := by
  unfold Heeds at hrest ⊢
  rw [perform_inTurn_of_ok hrun, firstErrorPhase?_of_ok hrun, if_neg hzero.not_gt]
  obtain ⟨more, hjournal, hends⟩ := hrest
  -- No error is taken back, so none was counted at any call of the leg.
  have hnone : lateStations made = [] := by
    refine List.eq_nil_iff_forall_not_mem.mpr fun st mem => ?_
    obtain ⟨e, hmem, hpos, -⟩ := mem_lateStations_iff.mp mem
    exact Nat.not_lt_zero _ (hzero ▸ Nat.lt_of_lt_of_le hpos (hmade.counts e hmem).2)
  refine ⟨made ++ more, by rw [hjournal, hmade.journal, List.append_assoc], ?_⟩
  rw [lateStations_append, hnone, List.nil_append]
  exact hends

end Legs

/-- Legs that heed errors wherever they start under a condition, nobody having been called behind an
error. -/
def Alert (g : Terms) (P : Condition) (legs : List (Leg σ)) : Prop :=
  ∀ s : Session σ, s.UnderWay g [] → P (s.affairs []) → Heeds g.destination legs s

theorem alert_nil : Alert g (Settled S Calm) ([] : List (Leg σ)) :=
  fun _ _ h => ⟨[], (List.append_nil _).symm, h.watch.1⟩

/-- **One leg more**: its own errors end it as its phase says, and if it comes to its end behind an
error, those after it do. -/
theorem alert_cons {lo' hi' : Station}
    (hm : Watched g lo hi P m (Settled S W) (Answers g.destination p))
    (hleak : Watched g lo' hi' (fun x => Settled S W x ∧ 0 < x.errors) (inTurn rest) (fun _ => False)
      (Answers g.destination p))
    (hrest : Alert g (Settled S Calm) rest) : Alert g P ((p, m) :: rest) := by
  intro s hs hP
  obtain ⟨made, hmade, hdestination, hends⟩ := hm s [] hs hP
  rw [List.nil_append] at hends
  -- The leg ends the run, or it comes to its end without an error or behind one.
  rcases hrun : perform m s with ⟨stop | _, s'⟩
  · rw [hrun] at hmade hends
    exact heeds_of_error hrun hmade hends
  · rw [hrun] at hmade hdestination hends
    have hs' : s'.UnderWay g (lateStations made) := hs.along hmade hdestination
    rcases Nat.eq_zero_or_pos s'.engine.errors with hzero | hpos
    · exact heeds_of_calm hrun hzero hmade (hrest s' ⟨hs'.terms, nofun⟩ ⟨hends.setup, hzero, rfl⟩)
    · exact heeds_of_leak hrun hpos hmade hs' ⟨hends, hpos⟩ hleak

/-- A leg that does not come to its end behind an error. -/
theorem alert_cons_of_calm (hm : Watched g lo hi P m (Settled S W) (Answers g.destination p))
    (hcalm : ∀ n late, W n late → n = 0) (hrest : Alert g (Settled S Calm) rest) :
    Alert g P ((p, m) :: rest) := by
  have hnever : Watched g .sources .sources (fun x => Settled S W x ∧ 0 < x.errors) (inTurn rest)
      (fun _ => False) (Answers g.destination p) :=
    fun _ _ _ h => absurd (hcalm _ _ h.1.watch) h.2.ne'
  exact alert_cons hm hnever hrest

/-! ## Behind an error -/

/-- No error is taken back. -/
theorem Watched.behindError (h : Watched g lo hi P m Q X) :
    Watched g lo hi (fun x => P x ∧ 0 < x.errors) m (fun x => Q x ∧ 0 < x.errors) X := by
  intro s late hs hstart
  obtain ⟨made, hmade, hdestination, hends⟩ := h s late hs hstart.1
  refine ⟨made, hmade, hdestination, ?_⟩
  rcases hrun : perform m s with ⟨stop | _, s'⟩
  · rw [hrun] at hends
    exact hends
  · rw [hrun] at hmade hends
    exact ⟨hends, Nat.lt_of_lt_of_le hstart.2 hmade.errors_le⟩

/-- Who is called behind an error is called in any case. -/
theorem calledBehind_leak {st : Station} (hA : st ∈ p.unwatched) : ∀ errors late, 0 < errors →
    late = calledBehind errors st → late ≠ [] ∧ OnlyAt p.unwatched late := by
  rintro errors _ hpos rfl
  refine ⟨?_, onlyAt_calledBehind errors hA⟩
  unfold calledBehind
  rw [if_pos hpos]
  exact List.cons_ne_nil _ _

section Course

variable (hfatal : g.fatal = true)

include hfatal

/-- **A stage behind an error**: if it calls somebody there in any case, it does not come to its end, and
ends the run as one whose first error came up in a phase before. -/
theorem watched_leak {L : List Station → Prop} {L' : Nat → List Station → Prop} {V : Nat → Watch}
    {q : Phase} {stop : Stop}
    (h : ∀ errors, Does c g lo hi (Settled S (From g errors L)) m (fun _ => Within q S' (V errors))
      (Ended c g S (EndsAs stop (L' errors))))
    (hV : ∀ errors n late, V errors n late → L' errors [])
    (hL : ∀ errors late, 0 < errors → L' errors late → late ≠ [] ∧ OnlyAt p.unwatched late)
    (hp : p.Ends g.destination true stop) :
    Watched g lo hi (fun x => Settled S (Behind g L) x ∧ 0 < x.errors) m (fun _ => False)
      (Answers g.destination p) := by
  intro s late hs hstart
  obtain ⟨made, hmade, hdestination, hends⟩ :=
    (h s.engine.errors).covers s late hs ⟨hstart.1.setup, rfl, hstart.1.watch⟩
  refine ⟨made, hmade, hdestination, ?_⟩
  rcases hrun : perform m s with ⟨stop' | _, s'⟩
  · rw [hrun] at hends
    intro hpos
    obtain ⟨rfl, hlate⟩ := hends.fatal hfatal hpos
    obtain ⟨hsome, honly⟩ := hL _ _ hstart.2 hlate
    refine ⟨?_, honly⟩
    rwa [List.isEmpty_eq_false_iff.mpr hsome]
  · rw [hrun] at hends
    exact absurd rfl (hL _ _ hstart.2 (hV _ _ _ hends.watch)).1

/-- Behind an error the tree is resolved, and then the run ends. -/
theorem watched_resolveTree_leak (hp : p.Ends g.destination true (.fatal .resolveTree))
    (hA : .tree ∈ p.unwatched) :
    Watched g .tree .documentation (fun x => Settled S (Behind g (OnlyAt [])) x ∧ 0 < x.errors)
      (resolveTree c) (fun _ => False) (Answers g.destination p) :=
  watched_leak hfatal does_resolveTree
    (fun _ _ _ h => (h hfatal).1.2.symm.trans (h hfatal).2) (calledBehind_leak hA) hp

/-- Behind an error the using aliases are verified, and then the run ends. -/
theorem watched_verifyUsing_leak (hp : p.Ends g.destination true (.fatal .verifyUsing))
    (hA : .usings ∈ p.unwatched) :
    Watched g .usings .attributes (fun x => Settled S (Behind g (OnlyAt [])) x ∧ 0 < x.errors)
      (verifyUsing c) (fun _ => False) (Answers g.destination p) :=
  watched_leak hfatal does_verifyUsing
    (fun _ _ _ h => h.1.2.symm.trans (h.2 hfatal)) (calledBehind_leak hA) hp

/-- Behind an error native resources are defined, and then the run ends. -/
theorem watched_nativeResources_leak (hp : p.Ends g.destination true (.fatal .nativeResources))
    (hA : .nativeResources ∈ p.unwatched) :
    Watched g .nativeResources .saving
      (fun x => Settled S (Behind g (OnlyAt p.unwatched)) x ∧ 0 < x.errors)
      (do nativeResources c; stopIfFatal) (fun _ => False) (Answers g.destination p) :=
  watched_leak hfatal (fun _ => does_nativeResources hA)
    (fun _ _ _ h => (h hfatal).1.2 ▸ (h hfatal).2) (fun _ _ hpos h => ⟨h.2 hpos, h.1⟩) hp

/-! ## The legs of a run -/

theorem alert_frontLegs {rest : List (Leg σ)} (hrest : Alert g (Settled (Opened S) Calm) rest) :
    Alert g (Settled S Calm) (frontLegs c ++ rest) := by
  have hopens : Phase.Ends g.destination false (if g.destination.isSome then .fatal .outputIdentity
    else .halted .outputIdentity) .outputIdentity := rfl
  refine alert_cons_of_calm ((does_configureDefaults (c := c)).watched hfatal (answers_atOnce rfl))
    (fun _ _ h => h.1) ?_
  refine alert_cons_of_calm (does_loadReferences.watched hfatal (answers_fatalIn fun _ => rfl))
    (fun _ _ h => h.1) ?_
  refine alert_cons_of_calm (does_outputIdentity.watched hfatal (answers_atOnce hopens))
    (fun _ _ h => h.1) ?_
  refine alert_cons_of_calm (does_loadModules.watched hfatal (answers_fatalIn fun _ => rfl))
    (fun _ _ h => (h hfatal).1.1) ?_
  -- The two legs here that have no check at their end are followed by one that has a gate.
  refine alert_cons (Watched.pre (does_coreTypes.watched hfatal (answers_atOnce rfl))
    fun _ h => h.mono (checked_of_calm onlyAt_nil))
    (watched_inTurn_never (by decide) (watched_resolveTree_leak hfatal rfl (by decide))) ?_
  refine alert_cons_of_calm (Watched.pre ((does_resolveTree 0).watched hfatal (answers_none rfl))
    fun _ h => h.mono (from_of_calm onlyAt_nil)) (fun _ _ h => (h hfatal).1.1) ?_
  refine alert_cons (Watched.pre (does_documentation.watched hfatal (answers_atOnce rfl))
    fun _ h => h.mono (checked_of_calm onlyAt_nil))
    (watched_inTurn_never (by decide) (watched_verifyUsing_leak hfatal rfl (by decide))) ?_
  refine alert_cons_of_calm (Watched.pre ((does_verifyUsing 0).watched hfatal (answers_none rfl))
    fun _ h => h.mono (from_of_calm onlyAt_nil)) (fun _ _ h => h.1.1) ?_
  exact alert_cons_of_calm (does_assemblyAttributes.watched hfatal (answers_fatalIn fun _ => rfl))
    (fun _ _ h => h.1) hrest

theorem alert_backLegs (hopen : ∀ su, S su → su.output.isSome = true) :
    Alert g (Settled S Calm) (backLegs c) := by
  refine alert_cons_of_calm (does_emit.watched hfatal (answers_atOnce rfl)) (fun _ _ h => h.1) ?_
  refine alert_cons_of_calm (does_closeTypes.watched hfatal (answers_atOnce rfl)) (fun _ _ h => h.1) ?_
  -- Behind an error neither the native resources nor what comes after them come to their end.
  have hnative {p : Phase} (hp : p.Ends g.destination true (.fatal .nativeResources))
      (hA : p.unwatched = [.resources, .nativeResources]) :
      Watched g .nativeResources .saving
        (fun x => Settled S (Behind g (OnlyAt [.resources])) x ∧ 0 < x.errors)
        (inTurn [(.nativeResources, do nativeResources c; stopIfFatal), (.save, save c)])
        (fun _ => False) (Answers g.destination p) := by
    have hleak := @watched_nativeResources_leak σ c g S p hfatal hp (by rw [hA]; decide)
    rw [hA] at hleak
    exact watched_inTurn_never (by decide)
      (hleak.pre fun x hx => ⟨hx.1.mono (behind_mono (by decide)), hx.2⟩)
  have hhalted : Phase.Ends g.destination false (.halted .emitResources) .entryPoint := .inr rfl
  have hresources : Watched g .resources .saving
      (fun x => Settled S (Behind g (OnlyAt [])) x ∧ 0 < x.errors)
      (inTurn [(.emitResources, emitResources c),
        (.nativeResources, do nativeResources c; stopIfFatal), (.save, save c)])
      (fun _ => False) (Answers g.destination .entryPoint) :=
    covers_bind (.behind (by decide) (by decide))
      (Watched.behindError (does_emitResources.watched hfatal (answers_atOnce hhalted)))
      fun _ => hnative rfl rfl
  -- A main class where none may be lets the resources and the native resources come.
  refine alert_cons (does_entryPoint.watched hfatal (answers_atOnce (.inl rfl))) hresources ?_
  refine alert_cons (Watched.pre (does_emitResources.watched hfatal (answers_atOnce rfl))
    fun _ h => h.mono (behind_of_calm onlyAt_nil)) (hnative rfl rfl) ?_
  have hends : ∀ stop late, EndsAs (.fatal .nativeResources) (Heedless 0 [.nativeResources]) stop late →
      Answers g.destination .nativeResources stop late := fun _ _ h => ⟨h.1, h.2.1⟩
  refine alert_cons_of_calm (Watched.pre
    ((does_nativeResources (List.mem_singleton_self _)).watched hfatal hends)
    fun _ h => h.mono (from_of_calm onlyAt_nil)) (fun _ _ h => (h hfatal).1.1) ?_
  exact alert_cons_of_calm (Watched.pre ((does_save hopen).watched hfatal (answers_atOnce rfl))
    fun _ h => h.mono (checked_of_calm (L := fun _ => True) trivial)) (fun _ _ h => h.1) alert_nil

/-- **The course of a run is on the alert**, with errors at its start or without. -/
theorem alert_course (last : Phase) (config : Config) :
    Alert g (Settled S (Behind g (OnlyAt []))) (course c last config) := by
  refine alert_cons_of_calm (does_parse.watched hfatal (answers_atOnce rfl)) (fun _ _ h => h.1) ?_
  split
  · exact alert_nil
  · split
    · exact alert_nil
    · refine alert_frontLegs hfatal ?_
      split
      · exact alert_nil
      · exact alert_backLegs hfatal isSome_output_of_opened

end Course

end Stage

/-! ## A run -/

/-- **The phases that end a run as fatal**, if nobody was called behind the error.  The others
halt it. -/
def Phase.EndsFatal (d : Option Path) (p : Phase) : Prop :=
  p ∉ [Phase.entryPoint, .emitResources, .save] ∧ (p = .outputIdentity → d.isSome = true)

theorem Phase.Ends.eq_fatal_iff {d : Option Path} {stop : Stop} {p : Phase}
    (h : p.Ends d false stop) : stop = .fatal p ↔ p.EndsFatal d := by
  cases p with
  | outputIdentity => cases d <;> simp_all [Ends, EndsFatal]
  | entryPoint => rcases h with rfl | rfl <;> simp [EndsFatal]
  | _ => simp_all [Ends, EndsFatal]

namespace Session

open Stage

/-- **The phase where the first error of a run comes up.** -/
def firstErrorPhase? (c : Collaborators σ) (last : Phase) (s : Session σ) : Option Phase :=
  Stage.firstErrorPhase? (course c last s.config) { s with finished := true }

/-- **Under fatal errors a run ends soon behind its first error**, and it is for the phase where that
comes up to say how.

If no error comes up, none is counted at the end.  Otherwise the run is ended.  Behind the error only
the collaborators are called that its phase leaves unwatched: the other references or modules of a
list, the next phase that has a gate, what is left of the attributes or of the resources.  If nobody is
called behind it, the run ends as fatal in that very phase, unless the phase halts it: for want of an
output, of an entry point or of a place for the resources, or since the output could not be saved. -/
theorem run_of_firstError (c : Collaborators σ) (last : Phase) (s : Session σ)
    (hready : s.finished = false) (hfatal : s.engine.policy.fatal = true) :
    ∃ made, (s.run c last).2.bench.journal = s.bench.journal ++ made ∧
      match s.firstErrorPhase? c last with
      | none => (s.run c last).2.engine.errors = 0
      | some p => 0 < (s.run c last).2.engine.errors ∧
          (∀ e ∈ made, 0 < e.errors → e.station ∈ p.unwatched) ∧
          ∃ stop, (s.run c last).1 = .error stop ∧
            p.Ends s.config.destination? (calledLate made) stop ∧
            ((∀ e ∈ made, e.errors = 0) → (stop = .fatal p ↔ p.EndsFatal s.config.destination?)) := by
  obtain ⟨made, hjournal, hends⟩ := @alert_course σ c s.terms (· = s.setup) hfatal last s.config
    { s with finished := true } (underWay_start _) (settled_start _)
  -- The course is what the run performs.
  rw [← perform_toPhase c last { s with finished := true }] at hjournal hends
  rw [run_snd_of_ready hready]
  refine ⟨made, hjournal, ?_⟩
  unfold firstErrorPhase?
  split
  · rename_i hnone
    rwa [hnone] at hends
  · rename_i p hfirst
    rw [hfirst] at hends
    obtain ⟨hpos, stop, hstop, hp, honly⟩ := hends
    rw [← calledLate_eq] at hp
    refine ⟨hpos, fun e mem hlater => honly (mem_lateStations_iff.mpr ⟨e, mem, hlater, rfl⟩), stop,
      run_error_of_ready hready hstop, hp, fun hnone => ?_⟩
    rw [calledLate_eq_false_iff.mpr hnone] at hp
    exact hp.eq_fatal_iff

/-- A session without sources whose errors are fatal. -/
def strictSourceless (target : Target) : Session Host.Manifest :=
  { sourceless target with
    bench := { own := {}, files := ⟨[], {}⟩, desk := { engine := { policy := { fatal := true } } } } }

/-- The host with a type system that misses a predefined type, says so, and goes on. -/
def shortOfTypes : Collaborators Host.Manifest :=
  { Host.collaborators ⟨""⟩ with
    types := { (Host.collaborators ⟨""⟩).types with
      resolveCoreTypes := fun _ _ => return (true, [.error 518 "a predefined type is missing"]) } }

/-- Behind a missing predefined type the tree is resolved, and nobody else is called. -/
theorem run_of_firstError_shortOfTypes :
    (∃ e ∈ ((strictSourceless .library).run shortOfTypes .save).2.bench.journal, 0 < e.errors) ∧
    (∀ e ∈ ((strictSourceless .library).run shortOfTypes .save).2.bench.journal,
      0 < e.errors → e.station = .tree) ∧
    ((strictSourceless .library).run shortOfTypes .save).1 = .error (.fatal .resolveTree) := by
  have hfirst : (strictSourceless .library).firstErrorPhase? shortOfTypes .save = some .coreTypes := by
    cbv
  have hlate : calledLate ((strictSourceless .library).run shortOfTypes .save).2.bench.journal := by
    cbv
  have hends := run_of_firstError shortOfTypes .save (strictSourceless .library) rfl rfl
  -- The phase is put in before anything is taken apart, so that the run need not be evaluated.
  rw [hfirst] at hends
  obtain ⟨made, hjournal, -, hstations, stop, hstop, hp, -⟩ := hends
  have hmade : ((strictSourceless .library).run shortOfTypes .save).2.bench.journal = made := hjournal
  rw [hmade] at hlate ⊢
  obtain ⟨e, mem, hpos⟩ := List.any_eq_true.mp hlate
  refine ⟨⟨e, mem, of_decide_eq_true hpos⟩, fun e mem hpos => ?_, ?_⟩
  · exact List.mem_singleton.mp (hstations e mem hpos)
  · rw [hlate] at hp
    rw [hstop, show stop = .fatal .resolveTree from hp]

/-- **A run does not always end as fatal where its first error comes up**: a program without an entry
point is halted.  **Nor is nobody called behind it**: a type system can report an error and have the run
go on to the tree. -/
theorem not_fatal_of_firstError :
    (¬ ∀ (c : Collaborators Host.Manifest) (last : Phase) (s : Session Host.Manifest),
      s.finished = false → s.engine.policy.fatal = true →
        ∀ p, s.firstErrorPhase? c last = some p → (s.run c last).1 = .error (.fatal p)) ∧
    ¬ ∀ (c : Collaborators Host.Manifest) (last : Phase) (s : Session Host.Manifest),
      s.finished = false → s.engine.policy.fatal = true →
        ∃ made, (s.run c last).2.bench.journal = s.bench.journal ++ made ∧
          ∀ e ∈ made, e.errors = 0 := by
  constructor
  · intro hfatal
    have hfirst : (strictSourceless .exe).firstErrorPhase? (Host.collaborators ⟨""⟩) .save =
        some .entryPoint := by cbv
    have hhalted : ((strictSourceless .exe).run (Host.collaborators ⟨""⟩) .save).1 =
        .error (.halted .entryPoint) := by cbv
    have hended := hfatal (Host.collaborators ⟨""⟩) .save (strictSourceless .exe) rfl rfl _ hfirst
    rw [hhalted] at hended
    cases hended
  · intro hnobody
    have hlate : calledLate ((strictSourceless .library).run shortOfTypes .save).2.bench.journal := by
      cbv
    obtain ⟨made, hjournal, hnone⟩ := hnobody shortOfTypes .save (strictSourceless .library) rfl rfl
    have hmade : ((strictSourceless .library).run shortOfTypes .save).2.bench.journal = made :=
      hjournal
    rw [hmade, calledLate_eq_false_iff.mpr hnone] at hlate
    cases hlate

end Session

end BatchCompiler

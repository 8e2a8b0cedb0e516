import BatchCompiler.Proofs.Pipeline.Does

/-!
# The conditions of a stage

A stage is gone through under a condition on three things: what has been settled, the phase, and how
errors have come up.  Of the last there is a *watch*, for when errors are fatal it matters who was called
behind one.  The rules below take the operations of a stage from one such condition to the next.

## Main definitions

* `Watch`, `Watch.Calm`, `Watch.Behind`, `Watch.Checked` — the watches of interest
* `Stage.Settled`, `Stage.Within` — the condition ahead of a stage, and inside it
* `Collaborators.Candid` — collaborators that refuse for a reason they report
* `Stage.Ended` — what is known when a stage ends the run

## Main statements

* `Stage.does_check`, `Stage.does_gate` — where errors end a run
* `Stage.does_ask`, `Stage.does_consult`, `Stage.does_job` — calls
-/

namespace BatchCompiler

variable {σ α β : Type}

/-! ## Watches -/

/-- **A watch**: a condition on the errors counted and on the stations called at behind one. -/
abbrev Watch := Nat → List Station → Prop

/-- Nobody was called behind an error but at some stations. -/
def OnlyAt (A late : List Station) : Prop := late ⊆ A

theorem onlyAt_nil {A : List Station} : OnlyAt A [] := List.nil_subset A

theorem onlyAt_nil_iff {late : List Station} : OnlyAt [] late ↔ late = [] := List.subset_nil

theorem OnlyAt.mono {A A' late : List Station} (h : OnlyAt A late) (hA : A ⊆ A') :
    OnlyAt A' late := List.Subset.trans h hA

theorem OnlyAt.append {A late more : List Station} (h : OnlyAt A late) (hmore : OnlyAt A more) :
    OnlyAt A (late ++ more) := List.append_subset.mpr ⟨h, hmore⟩

theorem onlyAt_calledBehind {A : List Station} {st : Station} (n : Nat) (hst : st ∈ A) :
    OnlyAt A (calledBehind n st) := by
  unfold OnlyAt calledBehind
  split
  · exact List.cons_subset.mpr ⟨hst, List.nil_subset A⟩
  · exact List.nil_subset A

namespace Watch

/-- No error is counted, and so nobody was called behind one. -/
def Calm : Watch := fun n late => n = 0 ∧ late = []

/-- Where errors are fatal, those called behind one are as `L` says. -/
def Behind (g : Terms) (L : List Station → Prop) : Watch := fun _ late => g.fatal = true → L late

/-- Where errors are fatal, none is counted. -/
def Checked (g : Terms) (L : List Station → Prop) : Watch := fun n late =>
  g.fatal = true → Calm n late ∧ L late

/-- No error is counted, and it has been as `L` says. -/
def Clear (g : Terms) (L : List Station → Prop) : Watch := fun n late =>
  Calm n late ∧ Behind g L n late

/-- So many errors are counted, and those called behind one are as `L` says. -/
def From (g : Terms) (errors : Nat) (L : List Station → Prop) : Watch := fun n late =>
  n = errors ∧ Behind g L n late

/-- One watch is kept and then another when a call at a station adds no error. -/
def Asks (st : Station) (W W' : Watch) : Prop :=
  ∀ n late, W n late → W' n (late ++ calledBehind n st)

/-- One watch is kept and then another whatever errors come of a call at a station. -/
def Consults (st : Station) (W W' : Watch) : Prop :=
  ∀ n n' late, W n late → n ≤ n' → W' n' (late ++ calledBehind n st)

/-- One watch is kept and then another whatever errors are reported. -/
def Lasts (W W' : Watch) : Prop := ∀ n n' late, W n late → n ≤ n' → W' n' late

variable {g : Terms} {L : List Station → Prop} {A : List Station} {st : Station} {W W' : Watch}

theorem Consults.asks (h : Consults st W W') : Asks st W W' := fun n _ hW => h n n _ hW le_rfl

theorem behind_of_calm (hL : L []) : ∀ n late, Calm n late → Behind g L n late := by
  rintro n late ⟨-, rfl⟩ -
  exact hL

theorem behind_mono {A' : List Station} (hA : A ⊆ A') :
    ∀ n late, Behind g (OnlyAt A) n late → Behind g (OnlyAt A') n late :=
  fun _ _ h hfatal => (h hfatal).mono hA

theorem behind_of_checked : ∀ n late, Checked g L n late → Behind g L n late :=
  fun _ _ h hfatal => (h hfatal).2

/-- Behind a check nobody has been called behind an error. -/
theorem checked_onlyAt : ∀ n late, Checked g L n late → Checked g (OnlyAt A) n late :=
  fun _ _ h hfatal => ⟨(h hfatal).1, (h hfatal).1.2 ▸ onlyAt_nil⟩

theorem checked_of_calm (hL : L []) : ∀ n late, Calm n late → Checked g L n late := by
  rintro n late ⟨rfl, rfl⟩ -
  exact ⟨⟨rfl, rfl⟩, hL⟩

theorem from_of_calm (hL : L []) : ∀ n late, Calm n late → From g 0 L n late := fun n late h =>
  ⟨h.1, behind_of_calm hL n late h⟩

theorem asks_calm : Asks st Calm Calm := by
  rintro n late ⟨rfl, rfl⟩
  exact ⟨rfl, rfl⟩

theorem consults_calm (hL : L []) : Consults st Calm (Behind g L) := by
  rintro n n' late ⟨rfl, rfl⟩ - -
  exact hL

theorem consults_clear : Consults st (Clear g L) (Behind g L) := by
  rintro n n' late ⟨⟨rfl, rfl⟩, hL⟩ -
  exact hL

/-- Where nobody was called behind an error, it is now known who is. -/
theorem consults_from {errors : Nat} :
    Consults st (From g errors (OnlyAt [])) (Behind g (· = calledBehind errors st)) := by
  rintro n n' late ⟨rfl, hlate⟩ - hfatal
  rw [onlyAt_nil_iff.mp (hlate hfatal), List.nil_append]

theorem consults_checked : Consults st (Checked g L) (Behind g L) := by
  intro n n' late h _ hfatal
  obtain ⟨⟨rfl, -⟩, hL⟩ := h hfatal
  rwa [show calledBehind 0 st = [] from rfl, List.append_nil]

theorem consults_onlyAt (hst : st ∈ A) :
    Consults st (Behind g (OnlyAt A)) (Behind g (OnlyAt A)) := fun n _ _ h _ hfatal =>
  (h hfatal).append (onlyAt_calledBehind n hst)

theorem lasts_behind : Lasts (Behind g L) (Behind g L) := fun _ _ _ h _ => h

theorem lasts_calm (hL : L []) : Lasts Calm (Behind g L) := fun n _ late h _ =>
  behind_of_calm hL n late h

end Watch

open Watch

/-- **A call at a station** away from those that open and save the output. -/
structure Call.At (call : Call) (st : Station) : Prop where
  station : call.station = st
  opening : st ≠ .opening
  saving : st ≠ .saving

namespace Call.At

variable {call : Call} {st : Station}

/-- Behind every call there is a station. -/
theorem next (h : call.At st) : st.next.rank = st.rank + 1 := by
  have hst : st ≠ .finished := by
    rw [← h.station]
    cases call with
    | supports capability => cases capability <;> decide
    | _ => exact nofun
  cases st with
  | finished => exact absurd rfl hst
  | _ => rfl

theorem ignores (h : call.At st) : Setup.Ignores call := by
  cases call with
  | init path debug => exact absurd h.station.symm h.opening
  | save path debug => exact absurd h.station.symm h.saving
  | _ => exact fun _ _ => rfl

end Call.At

/-! ## Conditions -/

/-- **Collaborators that end a run for a reported reason only**: an error comes with every refusal, and
modules are supported. -/
structure Collaborators.Candid (c : Collaborators σ) : Prop where
  coreTypes : ∀ root engine site, (c.types.resolveCoreTypes root engine site).1.1 = false →
    ∃ r ∈ (c.types.resolveCoreTypes root engine site).1.2, r.diagnostic.severity = .error
  documentation : ∀ path tree engine site, (c.docs.export_ path tree engine site).1.1 = false →
    ∃ r ∈ (c.docs.export_ path tree engine site).1.2, r.diagnostic.severity = .error
  moduleOnly : ∀ site, (c.output.supports .moduleOnly site).1 = true

/-- A session sets out on its own terms. -/
theorem Session.underWay_start (s : Session σ) : s.UnderWay s.terms [] := ⟨rfl, nofun⟩

namespace Stage

/-- **Ahead of a stage**: what has been settled meets `S`, and a watch is kept. -/
structure Settled (S : Setup → Prop) (W : Watch) (x : Affairs) : Prop where
  setup : S x.setup
  watch : W x.errors x.late

/-- **Inside a stage**, in a phase. -/
structure Within (p : Phase) (S : Setup → Prop) (W : Watch) (x : Affairs) : Prop
    extends Settled S W x where
  phase : x.phase = p

/-- **What is known when a run is ended**: nothing has been saved; with candid collaborators the run is
ended by errors that have been counted; and where errors are fatal and there is one, `X` says how the run
is ended and who was called behind an error. -/
structure Ended (c : Collaborators σ) (g : Terms) (S : Setup → Prop)
    (X : Stop → List Station → Prop) (stop : Stop) (x : Affairs) : Prop where
  saved : ∃ su, S su ∧ x.setup.saved = su.saved
  excused : c.Candid → 0 < x.errors ∧ stop.isOfErrors = true
  fatal : g.fatal = true → 0 < x.errors → X stop x.late

/-- To be ended in one way only. -/
def EndsAs (stop : Stop) (L : List Station → Prop) (stop' : Stop) (late : List Station) : Prop :=
  stop' = stop ∧ L late

variable {c : Collaborators σ} {g : Terms} {lo mid hi st : Station} {P P' : Condition}
  {m : Stage σ α} {Q Q' : α → Condition} {E E' : Stop → Condition} {p : Phase} {S : Setup → Prop}
  {W W' : Watch} {X : Stop → List Station → Prop} {L : List Station → Prop}

theorem Settled.mono {x : Affairs} (h : Settled S W x) (hW : ∀ n late, W n late → W' n late) :
    Settled S W' x := ⟨h.setup, hW _ _ h.watch⟩

theorem Within.mono {x : Affairs} (h : Within p S W x) (hW : ∀ n late, W n late → W' n late) :
    Within p S W' x := ⟨h.toSettled.mono hW, h.phase⟩

/-- Where a session sets out nobody was called behind an error. -/
theorem settled_start (s : Session σ) :
    Settled (· = s.setup) (Behind s.terms (OnlyAt [])) (s.affairs []) := ⟨rfl, fun _ => onlyAt_nil⟩

/-- An end by errors that have been counted. -/
theorem Within.ended {x : Affairs} (h : Within p S W x) {stop : Stop}
    (hstop : stop.isOfErrors = true) (hpos : 0 < x.errors)
    (hX : g.fatal = true → ∀ n late, W n late → 0 < n → X stop late) : Ended c g S X stop x :=
  ⟨⟨_, h.setup, rfl⟩, fun _ => ⟨hpos, hstop⟩, fun hfatal hpos => hX hfatal _ _ h.watch hpos⟩

/-- Less is known where more may have been settled, as long as that is not saved. -/
theorem Ended.imp {S' : Setup → Prop} {X' : Stop → List Station → Prop} {stop : Stop} {x : Affairs}
    (h : Ended c g S' X' stop x) (hS : ∀ su', S' su' → ∃ su, S su ∧ su'.saved = su.saved)
    (hX : ∀ late, X' stop late → X stop late) : Ended c g S X stop x := by
  obtain ⟨su', hsu', hsaved⟩ := h.saved
  obtain ⟨su, hsu, hsame⟩ := hS su' hsu'
  exact ⟨⟨su, hsu, hsaved.trans hsame⟩, h.excused, fun hf hpos => hX _ (h.fatal hf hpos)⟩

/-! ## Structural rules -/

theorem Does.pre (h : Does c g lo hi P m Q E) (hP : ∀ x, P' x → P x) : Does c g lo hi P' m Q E :=
  h.weaken le_rfl le_rfl rfl rfl hP (fun _ _ => id) fun _ _ => id

theorem Does.post (h : Does c g lo hi P m Q E) (hQ : ∀ a x, Q a x → Q' a x) :
    Does c g lo hi P m Q' E :=
  h.weaken le_rfl le_rfl rfl rfl (fun _ => id) hQ fun _ _ => id

theorem Does.ended {S' : Setup → Prop} {X' : Stop → List Station → Prop}
    (h : Does c g lo hi P m Q (Ended c g S' X'))
    (hS : ∀ su', S' su' → ∃ su, S su ∧ su'.saved = su.saved)
    (hX : ∀ stop late, X' stop late → X stop late) : Does c g lo hi P m Q (Ended c g S X) :=
  h.weaken le_rfl le_rfl rfl rfl (fun _ => id) (fun _ _ => id) fun _ _ h => h.imp hS (hX _)

/-- The same part, seen up to a later station. -/
theorem Does.upTo (h : Does c g lo mid P m Q E) (hhi : mid.rank ≤ hi.rank)
    (hopen : hi.isOpen = mid.isOpen) : Does c g lo hi P m Q E :=
  h.weaken le_rfl hhi rfl hopen (fun _ => id) (fun _ _ => id) fun _ _ => id

/-- **One part behind another**, at a later station or the same. -/
theorem Does.andThen {f : α → Stage σ β} {R : β → Condition} (hm : Does c g lo mid P m Q E)
    (hf : ∀ a, Does c g mid hi (Q a) (f a) R E) (hlo : lo.rank ≤ mid.rank)
    (hhi : mid.rank ≤ hi.rank) : Does c g lo hi P (m >>= f) R E :=
  hm.bind hf (.behind hlo hhi)

/-- What calls nobody comes first. -/
theorem Does.first {f : α → Stage σ β} {R : β → Condition} (hm : Does c g lo lo P m Q E)
    (hf : ∀ a, Does c g lo hi (Q a) (f a) R E) (hhi : lo.rank ≤ hi.rank) :
    Does c g lo hi P (m >>= f) R E := hm.andThen hf le_rfl hhi

/-- Where a run ends nothing comes behind. -/
theorem does_throw_bind {stop : Stop} {f : α → Stage σ β} {R : β → Condition}
    (hE : ∀ x, P x → E stop x) : Does c g lo hi P (throw stop >>= f) R E := .throw stop hE

/-- Most parts look at the session for what no condition speaks of. -/
theorem does_look {f : Session σ → Stage σ β} {R : β → Condition}
    (hblind : ∀ s s', s.LooksLike s' → f s = f s')
    (hf : ∀ s : Session σ, s.terms = g → Does c g lo hi P (f s) R E) :
    Does c g lo hi P (get >>= f) R E :=
  .look hblind fun s _ hs hstart => (hf s hs.terms).pre fun _ heq => heq ▸ hstart

/-- A change of the session that touches nothing a condition speaks of. -/
theorem does_modify {change : Session σ → Session σ}
    (hkeeps : ∀ s, (change s).bench = s.bench ∧ (change s).phase = s.phase ∧
      (change s).output = s.output ∧
      (change s).config.destination? = s.config.destination? ∧
      (change s).config.stopsAfterParsing = s.config.stopsAfterParsing)
    (halike : ∀ (l : Likeness σ) (s s' : Session σ), s.Alike l s' →
      (change s).Alike l (change s')) :
    Does c g lo lo P (modify change : Stage σ PUnit) (fun _ => P) E := by
  refine .change (fun s => ⟨(hkeeps s).1, (hkeeps s).2.2.2.1⟩) halike fun s late hstart => ?_
  obtain ⟨hbench, hphase, houtput, -, hstops⟩ := hkeeps s
  have hsame : (change s).affairs late = s.affairs late := by
    unfold Session.affairs Session.setup Session.engine
    rw [hbench, hphase, houtput, hstops]
  rwa [hsame]

/-- What can be gone through from every session at hand can be gone through. -/
theorem does_at (h : ∀ (s : Session σ) (late : List Station), s.UnderWay g late →
      P (s.affairs late) → Does c g lo hi (· = s.affairs late) m Q E) : Does c g lo hi P m Q E := by
  show Does c g lo hi P (get >>= fun _ => m) Q E
  exact .look (fun _ _ _ => rfl) h

/-- What can be gone through from any count of errors can be gone through whatever the count. -/
theorem does_of_from (h : ∀ errors, Does c g lo hi (Settled S (From g errors L)) m Q E) :
    Does c g lo hi (Settled S (Behind g L)) m Q E := by
  refine does_at fun s late _ hstart => (h s.engine.errors).pre ?_
  rintro _ rfl
  exact ⟨hstart.setup, rfl, hstart.watch⟩

/-! ## Parts that call nobody -/

/-- What is told without a report changes nothing. -/
theorem does_tell_events {ns : List Notice} (h : Notice.reports ns = []) :
    Does c g lo lo P (job (Job.tell ns) : Stage σ Unit) (fun _ => P) E :=
  .tell ns fun x e hx herrors => by rwa [h, Engine.submitAll_nil, herrors]

theorem does_log (level : LogLevel) (message : String) :
    Does c g lo lo P (log level message : Stage σ Unit) (fun _ => P) E := does_tell_events rfl

/-- What is not supported is no error. -/
theorem does_report_missingSupport (feature : String) :
    Does c g lo lo P (report (.missingSupport feature) : Stage σ Unit) (fun _ => P) E := by
  refine .tell _ fun x e hx herrors => ?_
  show P { x with errors := e.errors }
  rwa [herrors]

theorem does_lap (message : String) :
    Does c g lo lo P (lap message : Stage σ Unit) (fun _ => P) E := by
  refine does_look (fun s s' h => by rw [h.config]) fun s _ => ?_
  split
  · exact does_tell_events rfl
  · exact .pure () fun _ => id

/-- **A phase is entered.** -/
theorem does_enter :
    Does c g lo lo (Settled S W) (enter p : Stage σ Unit) (fun _ => Within p S W) E :=
  (does_log _ _).first (fun _ => .change (fun _ => ⟨rfl, rfl⟩)
    (fun _ _ _ h => { h with phase := rfl })
    fun _ _ hstart => ⟨⟨hstart.setup, hstart.watch⟩, rfl⟩) le_rfl

/-- A phase is entered that tells the time. -/
theorem does_announce {message : String} {rest : Stage σ α}
    (hrest : Does c g lo hi (Within p S W) rest Q E) (hle : lo.rank ≤ hi.rank) :
    Does c g lo hi (Settled S W) (do enter p; lap message; rest) Q E :=
  does_enter.first (fun _ => (does_lap message).first (fun _ => hrest) hle) hle

/-- **Errors may be among what is told.** -/
theorem does_tell (ns : List Notice) (hW : W.Lasts W') :
    Does c g lo lo (Within p S W) (job (Job.tell ns) : Stage σ Unit) (fun _ => Within p S W') E :=
  .tell ns fun _ e hx herrors => ⟨⟨hx.setup, hW _ _ _ hx.watch
    (herrors ▸ Engine.errors_le_submitAll e (Notice.reports ns))⟩, hx.phase⟩

/-- **A reported error ends the run.** -/
theorem does_report_throw {r : Report} {stop : Stop} (hr : r.diagnostic.severity = .error)
    (hstop : stop.isOfErrors = true)
    (hX : g.fatal = true → ∀ n late, W n late → X stop late) (hle : lo.rank ≤ hi.rank) :
    Does c g lo hi (Within p S W) (do report r; throw stop : Stage σ α) Q (Ended c g S X) := by
  refine Does.first (Q := fun _ => Ended c g S X stop) (.tell [.report r] fun x e hx herrors => ?_)
    (fun _ => .throw stop fun _ => id) hle
  refine ⟨⟨_, hx.setup, rfl⟩, fun _ => ⟨?_, hstop⟩, fun hfatal _ => hX hfatal _ _ hx.watch⟩
  exact Engine.errors_pos_submitAll_of_mem (List.mem_singleton_self r) hr e

/-! ## Where errors end a run -/

/-- **A check for fatal errors** lets nothing pass but a count of zero, if errors are fatal. -/
theorem does_stopIfFatal
    (hE : g.fatal = true → ∀ x, P x → 0 < x.errors → E (.fatal x.phase) x) :
    Does c g lo lo P (stopIfFatal : Stage σ Unit)
      (fun _ x => P x ∧ (g.fatal = true → Calm x.errors x.late)) E := by
  refine .look (fun s s' h => by rw [h.fatalErrorSeen, h.phase]) fun s late hs hstart => ?_
  have hfatal : s.engine.policy.fatal = g.fatal := congrArg Terms.fatal hs.terms
  have hseen : s.engine.fatalErrorSeen = (g.fatal && decide (0 < s.engine.errors)) := by
    rw [← hfatal]
    rfl
  split
  · rename_i h
    rw [hseen, Bool.and_eq_true, decide_eq_true_iff] at h
    refine (does_log _ _).first (fun _ => .throw _ ?_) le_rfl
    rintro x rfl
    exact hE h.1 _ hstart h.2
  · rename_i h
    refine .pure () ?_
    rintro x rfl
    refine ⟨hstart, fun hf => ?_⟩
    rw [hseen, hf, Bool.true_and, decide_eq_true_iff] at h
    -- Without an error nobody can have been called behind one.
    exact ⟨Nat.eq_zero_of_not_pos h, by_contra fun hlate => h (hs.late hlate)⟩

/-- **A gate** lets nothing pass but a count of zero. -/
theorem does_gate_of (hE : ∀ x, P x → 0 < x.errors →
      E (if g.fatal = true then .fatal x.phase else .halted x.phase) x) :
    Does c g lo lo P (gate : Stage σ Unit) (fun _ x => P x ∧ Calm x.errors x.late) E := by
  refine (does_stopIfFatal fun hfatal x hx hpos => ?_).first (fun _ => ?_) le_rfl
  · have hstop := hE x hx hpos
    rwa [if_pos hfatal] at hstop
  refine .look (fun s s' h => by rw [h.hasErrors, h.phase, h.errors]) fun s late hs hstart => ?_
  split
  · rename_i h
    have hpos : 0 < s.engine.errors := of_decide_eq_true h
    refine (does_log _ _).first (fun _ => .throw _ ?_) le_rfl
    rintro x rfl
    -- The check for fatal errors has let no error pass if they are.
    have hstop := hE _ hstart.1 hpos
    rwa [if_neg fun hfatal => hpos.ne' (hstart.2 hfatal).1] at hstop
  · rename_i h
    have hnone : ¬ 0 < s.engine.errors := fun hpos => h (decide_eq_true hpos)
    refine .pure () ?_
    rintro x rfl
    exact ⟨hstart.1, Nat.eq_zero_of_not_pos hnone, by_contra fun hlate => hnone (hs.late hlate)⟩

/-- **A check for fatal errors in a stage.** -/
theorem does_check (hX : ∀ late, L late → X (.fatal p) late) :
    Does c g lo lo (Within p S (Behind g L)) (stopIfFatal : Stage σ Unit)
      (fun _ => Within p S (Checked g L)) (Ended c g S X) := by
  refine (does_stopIfFatal fun hfatal x hx hpos => ?_).post ?_
  · rw [hx.phase]
    exact hx.ended rfl hpos fun hfatal _ late h _ => hX late (h hfatal)
  · rintro _ x ⟨hx, hcalm⟩
    exact ⟨⟨hx.setup, fun hfatal => ⟨hcalm hfatal, hx.watch hfatal⟩⟩, hx.phase⟩

/-- **A gate in a stage.** -/
theorem does_gate_behind (hX : ∀ late, L late → X (.fatal p) late) :
    Does c g lo lo (Within p S (Behind g L)) (gate : Stage σ Unit)
      (fun _ => Within p S (Clear g L)) (Ended c g S X) := by
  refine (does_gate_of fun x hx hpos => ?_).post ?_
  · rw [hx.phase]
    split
    · exact hx.ended rfl hpos fun hfatal _ late h _ => hX late (h hfatal)
    · rename_i hnot
      exact hx.ended rfl hpos fun hfatal => absurd hfatal hnot
  · rintro _ x ⟨hx, hcalm⟩
    exact ⟨⟨hx.setup, hcalm, hx.watch⟩, hx.phase⟩

/-- **A gate at the end of a stage.** -/
theorem does_gate (hX : ∀ late, L late → X (.fatal p) late) :
    Does c g lo lo (Within p S (Behind g L)) (gate : Stage σ Unit) (fun _ => Within p S Calm)
      (Ended c g S X) :=
  (does_gate_behind hX).post fun _ _ h => h.mono fun _ _ h => h.1

/-- A gate at the end of a stage that tells the time. -/
theorem does_lap_gate {message : String} (hX : ∀ late, L late → X (.fatal p) late) :
    Does c g lo lo (Within p S (Behind g L)) (do lap message; gate : Stage σ Unit)
      (fun _ => Within p S Calm) (Ended c g S X) :=
  (does_lap message).first (fun _ => does_gate hX) le_rfl

/-- **A gate behind a check**, which has let no fatal error pass. -/
theorem does_gate_checked :
    Does c g lo lo (Within p S (Checked g L)) (gate : Stage σ Unit) (fun _ => Within p S Calm)
      (Ended c g S X) := by
  refine (does_gate_of fun x hx hpos => ?_).post fun _ _ h => ⟨⟨h.1.setup, h.2⟩, h.1.phase⟩
  refine hx.ended ?_ hpos fun hfatal n late h hn => absurd (h hfatal).1.1 hn.ne'
  split
  · rfl
  · rfl

/-! ## Calls -/

/-- **One call of a collaborator that cannot report.**  What is known of its answer may be used. -/
theorem does_ask_of [Answer α] {call : Call} {act : Act σ α} {F : α → Prop}
    (hcall : call.At st) (hgate : st.needsNoError = true → ∀ n late, W n late → n = 0)
    (hW : Asks st W W') (halike : ∀ l, c.Alike l → act.Alike (l.at st).own act)
    (hF : ∀ site, F (act site).1) :
    Does c g st st.next (Within p S W) (ask call act) (fun a x => Within p S W' x ∧ F a) E := by
  have hignores := hcall.ignores
  have hone := hcall.next
  obtain ⟨rfl, hopening, -⟩ := hcall
  refine .ask hone hopening (fun hneeds x hx => hgate hneeds _ _ hx.watch) halike
    fun x site hx => ⟨⟨⟨?_, hW _ _ hx.watch⟩, hx.phase⟩, hF site⟩
  rw [Affairs.called, hignores]
  exact hx.setup

theorem does_ask [Answer α] {call : Call} {act : Act σ α} (hcall : call.At st)
    (hgate : st.needsNoError = true → ∀ n late, W n late → n = 0) (hW : Asks st W W')
    (halike : ∀ l, c.Alike l → act.Alike (l.at st).own act) :
    Does c g st st.next (Within p S W) (ask call act) (fun _ => Within p S W') E :=
  (does_ask_of (F := fun _ => True) hcall hgate hW halike fun _ => trivial).post fun _ _ h => h.1

/-- **One call of a collaborator that can report.**  What is known of its answer and its reports may be
used. -/
theorem does_consult_of [Answer α] {call : Call} {act : Engine → Act σ (α × List Report)}
    {F : α → Prop} (hcall : call.At st)
    (hgate : st.needsNoError = true → ∀ n late, W n late → n = 0) (hW : Consults st W W')
    (halike : ∀ l, c.Alike l → ∀ e e', l.engine e e' → (act e).Alike (l.at st).own (act e'))
    (hF : ∀ e site, 0 < (e.submitAll (act e site).1.2).errors ∨ F (act e site).1.1) :
    Does c g st st.next (Within p S W) (consult call act)
      (fun a x => Within p S W' x ∧ (0 < x.errors ∨ F a)) E := by
  have hignores := hcall.ignores
  have hone := hcall.next
  obtain ⟨rfl, hopening, -⟩ := hcall
  refine .consult hone hopening (fun hneeds x hx => hgate hneeds _ _ hx.watch) halike
    fun x e site hx herrors => ⟨⟨⟨?_, ?_⟩, hx.phase⟩, hF e site⟩
  · rw [Affairs.called, hignores]
    exact hx.setup
  · exact hW _ _ _ hx.watch (herrors ▸ Engine.errors_le_submitAll e _)

theorem does_consult [Answer α] {call : Call} {act : Engine → Act σ (α × List Report)}
    (hcall : call.At st) (hgate : st.needsNoError = true → ∀ n late, W n late → n = 0)
    (hW : Consults st W W')
    (halike : ∀ l, c.Alike l → ∀ e e', l.engine e e' → (act e).Alike (l.at st).own (act e')) :
    Does c g st st.next (Within p S W) (consult call act) (fun _ => Within p S W') E :=
  (does_consult_of (F := fun _ => True) hcall hgate hW halike fun _ _ => .inr trivial).post
    fun _ _ h => h.1

/-! ### Once the output is open -/

theorem does_ask_open [Answer α] {call : Call} {act : Act σ α} (hcall : call.At st)
    (hopen : st.isOpen = true) (hgate : st.needsNoError = true → ∀ n late, W n late → n = 0)
    (hW : Asks st W W') :
    Does c g st st.next (Within p S W) (ask call act) (fun _ => Within p S W') E :=
  does_ask hcall hgate hW fun _ _ => Act.alike_at hopen rfl

theorem does_consult_open [Answer α] {call : Call} {act : Engine → Act σ (α × List Report)}
    (hcall : call.At st) (hopen : st.isOpen = true)
    (hgate : st.needsNoError = true → ∀ n late, W n late → n = 0) (hW : Consults st W W')
    (halike : ∀ l, c.Alike l → ∀ e e', l.engine e e' → act e = act e') :
    Does c g st st.next (Within p S W) (consult call act) (fun _ => Within p S W') E :=
  does_consult hcall hgate hW fun l hc e e' he => Act.alike_at hopen (halike l hc e e' he)

/-- Who answers with reports alone is consulted. -/
theorem does_review {call : Call} {act : Engine → Act σ (List Report)} (hcall : call.At st)
    (hopen : st.isOpen = true) (hgate : st.needsNoError = true → ∀ n late, W n late → n = 0)
    (hW : Consults st W W') (halike : ∀ l, c.Alike l → ∀ e e', l.engine e e' → act e = act e') :
    Does c g st st.next (Within p S W) (review call act) (fun _ => Within p S W') E :=
  does_consult_open hcall hopen hgate hW fun l hc e e' he => by rw [halike l hc e e' he]

/-- Who works on the tree is consulted. -/
theorem does_rework {call : Call} {act : ProgramTree → Engine → Act σ (ProgramTree × List Report)}
    (hcall : call.At st) (hopen : st.isOpen = true)
    (hgate : st.needsNoError = true → ∀ n late, W n late → n = 0) (hW : Consults st W W')
    (halike : ∀ l, c.Alike l → ∀ tree e e', l.engine e e' → act tree e = act tree e') :
    Does c g st st.next (Within p S W) (rework call act) (fun _ => Within p S W') E := by
  refine does_look (fun s s' h => by rw [h.tree]) fun s _ => ?_
  refine (does_consult_open hcall hopen hgate hW fun l hc => halike l hc s.tree).bind (fun tree =>
    does_modify (fun _ => ⟨rfl, rfl, rfl, rfl, rfl⟩) fun _ _ _ h => { h with tree := rfl })
    (.behind ?_ le_rfl)
  rw [hcall.next]
  exact Nat.le_succ _

/-- **A job at one station**, whoever is called there behind an error. -/
theorem does_job {j : Job σ α} {A : List Station} (hj : Job.Does c st j)
    (hrepeats : st.repeats = true) (hfree : st.needsNoError = false)
    (hone : st.next.rank = st.rank + 1) (hst : st ∈ A) :
    Does c g st st.next (Within p S (Behind g (OnlyAt A))) (job j)
      (fun _ => Within p S (Behind g (OnlyAt A))) E := by
  refine .job hj hrepeats hfree hone fun a x n more hx _ hmore =>
    ⟨⟨hx.setup, fun hfatal => (hx.watch hfatal).append fun st' mem => ?_⟩, hx.phase⟩
  rw [hmore st' mem]
  exact hst

end Stage

end BatchCompiler

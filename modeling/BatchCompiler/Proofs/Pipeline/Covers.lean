import BatchCompiler.Proofs.Pipeline.Jobs

/-!
# What a part of a run covers

A part of a run is a stretch between two stations, and it leads from one condition to another.  A
condition speaks of what decides the course of a run: the phase, how many errors are counted, what has
been settled about the output, and who was called behind an error.

## Main definitions

* `Setup`, `Session.setup` — what has been settled
* `Affairs`, `Condition` — how matters stand, and a condition on that
* `Terms` — what is laid down for a run
* `Stage.Covers` — the judgement: calls of a stretch, and the condition when it ends or is ended

## Main statements

* `Stage.covers_bind` — one part after another
* `Stage.covers_ask`, `Stage.covers_consult`, `Stage.covers_job` — calls
-/

namespace BatchCompiler

variable {σ α β : Type}

/-! ## What has been settled -/

/-- **What a run has settled**: the path of the output, whether the run ends after parsing, the paths
the backend was asked to open, and those it was asked to save with whether it did. -/
structure Setup where
  output : Option Path
  stopsAfterParsing : Bool
  opened : List Path
  saves : List (Path × Bool)

/-- The path that an entry asks to open. -/
def JournalEntry.opening? (e : JournalEntry) : Option Path :=
  match e.call with
  | .init path _ => some path
  | _ => none

/-- The path that an entry asks to save, and whether that was granted. -/
def JournalEntry.saving? (e : JournalEntry) : Option (Path × Bool) :=
  match e.call with
  | .save path _ => some (path, e.granted)
  | _ => none

namespace JournalEntry

theorem opening?_eq_none {e : JournalEntry} (h : e.station ≠ .opening) : e.opening? = none := by
  unfold opening?
  split
  · rename_i path debug hcall
    exact absurd (congrArg Call.station hcall) h
  · rfl

theorem saving?_eq_none {e : JournalEntry} (h : e.station ≠ .saving) : e.saving? = none := by
  unfold saving?
  split
  · rename_i path debug hcall
    exact absurd (congrArg Call.station hcall) h
  · rfl

theorem saving?_eq_some_iff {e : JournalEntry} {path : Path} {granted : Bool} :
    e.saving? = some (path, granted) ↔
      (∃ debug, e.call = .save path debug) ∧ e.granted = granted := by
  unfold saving?
  split
  · rename_i path' debug hcall
    rw [Option.some.injEq, Prod.mk.injEq, hcall]
    constructor
    · rintro ⟨rfl, rfl⟩
      exact ⟨⟨debug, rfl⟩, rfl⟩
    · rintro ⟨⟨debug', hsame⟩, rfl⟩
      cases hsame
      exact ⟨rfl, rfl⟩
  · rename_i hother
    exact ⟨nofun, fun h => absurd h.1.choose_spec (hother path _)⟩

end JournalEntry

namespace Setup

/-- The paths saved. -/
def saved (su : Setup) : List Path := (su.saves.filter (·.2)).map Prod.fst

/-- What is settled by a call. -/
def note (su : Setup) (call : Call) (granted : Bool) : Setup :=
  match call with
  | .init path _ => { su with opened := su.opened ++ [path] }
  | .save path _ => { su with saves := su.saves ++ [(path, granted)] }
  | _ => su

/-- A call that settles nothing. -/
def Ignores (call : Call) : Prop := ∀ (su : Setup) (granted : Bool), su.note call granted = su

end Setup

/-- An end that comes of errors. -/
def Stop.isOfErrors : Stop → Bool
  | .halted _ | .fatal _ => true
  | _ => false

/-- **What a session has settled.** -/
def Session.setup (s : Session σ) : Setup where
  output := s.output
  stopsAfterParsing := s.config.stopsAfterParsing
  opened := s.bench.journal.filterMap JournalEntry.opening?
  saves := s.bench.journal.filterMap JournalEntry.saving?

/-! ## How matters stand -/

/-- A call at a station, if errors are counted. -/
def calledBehind (errors : Nat) (st : Station) : List Station := if 0 < errors then [st] else []

/-- **The stations called at behind an error** by some calls. -/
def lateStations (made : List JournalEntry) : List Station :=
  made.flatMap fun e => calledBehind e.errors e.station

theorem lateStations_append (made more : List JournalEntry) :
    lateStations (made ++ more) = lateStations made ++ lateStations more := List.flatMap_append

theorem mem_lateStations_iff {made : List JournalEntry} {st : Station} :
    st ∈ lateStations made ↔ ∃ e ∈ made, 0 < e.errors ∧ e.station = st := by
  unfold lateStations calledBehind
  rw [List.mem_flatMap]
  refine exists_congr fun e => and_congr_right fun _ => ?_
  split
  · rename_i hpos
    rw [List.mem_singleton]
    exact ⟨fun h => ⟨hpos, h.symm⟩, fun h => h.2.symm⟩
  · rename_i hnone
    exact ⟨nofun, fun h => absurd h.1 hnone⟩

/-- **How matters stand in a run**: the phase, the errors counted, what has been settled, and the
stations called at behind an error. -/
structure Affairs where
  phase : Phase
  errors : Nat
  setup : Setup
  late : List Station

/-- How matters stand in a session, if it is known who was called behind an error. -/
def Session.affairs (s : Session σ) (late : List Station) : Affairs :=
  ⟨s.phase, s.engine.errors, s.setup, late⟩

/-- How matters stand behind a call. -/
def Affairs.called (x : Affairs) (call : Call) (granted : Bool) : Affairs :=
  { x with
    setup := x.setup.note call granted
    late := x.late ++ calledBehind x.errors call.station }

/-- **A condition** on how matters stand. -/
abbrev Condition := Affairs → Prop

/-- The path where the output is to go. -/
def Config.destination? (c : Config) : Option Path := c.output.orElse fun _ => c.defaultOutput?

/-- **What is laid down for a run**: whether errors are fatal, and where the output is to go. -/
structure Terms where
  fatal : Bool
  destination : Option Path

/-- What is laid down in a session. -/
def Session.terms (s : Session σ) : Terms := ⟨s.engine.policy.fatal, s.config.destination?⟩

/-- **A session under way** on its terms.  Behind who was called late there is an error. -/
structure Session.UnderWay (s : Session σ) (g : Terms) (late : List Station) : Prop where
  terms : s.terms = g
  late : late ≠ [] → 0 < s.engine.errors

/-- It stays under way along a stretch. -/
theorem Session.UnderWay.along {s s' : Session σ} {g : Terms} {late : List Station}
    {lo hi : Station} {made : List JournalEntry} (h : s.UnderWay g late)
    (hmade : Stretch lo hi s.bench s'.bench made)
    (hdestination : s'.config.destination? = s.config.destination?) :
    s'.UnderWay g (late ++ lateStations made) where
  terms := by
    obtain ⟨rs, hengine⟩ := hmade.engine
    unfold Session.terms
    rw [Session.engine, hengine, Engine.submitAll_policy, hdestination]
    exact h.terms
  late := by
    rw [Ne, List.append_eq_nil_iff, not_and_or]
    rintro (hbefore | hmore)
    · exact Nat.lt_of_lt_of_le (h.late hbefore) hmade.errors_le
    · obtain ⟨st, mem⟩ := List.exists_mem_of_ne_nil _ hmore
      obtain ⟨e, hmem, hpos, -⟩ := mem_lateStations_iff.mp mem
      exact Nat.lt_of_lt_of_le hpos (hmade.counts e hmem).2

namespace Stage

/-- **A part of a run covers** the stations from `lo` up to `hi`: where it starts under `P`, its calls
are a stretch between them; and `Q` holds of its answer when it comes to its end, `E` of the reason when
it ends the run. -/
def Covers (g : Terms) (lo hi : Station) (P : Condition) (m : Stage σ α) (Q : α → Condition)
    (E : Stop → Condition) : Prop :=
  ∀ (s : Session σ) (late : List Station), s.UnderWay g late → P (s.affairs late) →
    ∃ made, Stretch lo hi s.bench (perform m s).2.bench made ∧
      (perform m s).2.config.destination? = s.config.destination? ∧
      match perform m s with
      | (.ok a, s') => Q a (s'.affairs (late ++ lateStations made))
      | (.error stop, s') => E stop (s'.affairs (late ++ lateStations made))

variable {g : Terms} {lo mid mid' hi : Station} {P P' : Condition} {m : Stage σ α}
  {Q Q' : α → Condition} {E E' : Stop → Condition}

/-! ## Rules -/

/-- Less may be said, and the same part may be seen between stations further apart. -/
theorem Covers.mono {lo' hi' : Station} (h : Covers g lo hi P m Q E) (hlo : lo'.rank ≤ lo.rank)
    (hhi : hi.rank ≤ hi'.rank) (hP : ∀ x, P' x → P x) (hQ : ∀ a x, Q a x → Q' a x)
    (hE : ∀ stop x, E stop x → E' stop x) : Covers g lo' hi' P' m Q' E' := by
  intro s late hs hstart
  obtain ⟨made, hmade, hdestination, hends⟩ := h s late hs (hP _ hstart)
  refine ⟨made, hmade.mono hlo hhi, hdestination, ?_⟩
  rcases hrun : perform m s with ⟨stop | a, s'⟩
  · rw [hrun] at hends
    exact hE stop _ hends
  · rw [hrun] at hends
    exact hQ a _ hends

/-- A part that calls nobody and comes to its end. -/
theorem covers_of_silent {s' : Session σ → Session σ} {a : α} {rs : List Report}
    (hrun : ∀ s, perform m s = (.ok a, s' s))
    (hjournal : ∀ s, (s' s).bench.journal = s.bench.journal)
    (hengine : ∀ s, (s' s).engine = s.engine.submitAll rs)
    (hdestination : ∀ s, (s' s).config.destination? = s.config.destination?)
    (hQ : ∀ s late, P (s.affairs late) → Q a ((s' s).affairs late)) : Covers g lo lo P m Q E := by
  intro s late _ hstart
  refine ⟨[], ?_, ?_, ?_⟩
  · rw [hrun]
    exact .of_journal_eq (hjournal s) (hengine s)
  · rw [hrun]
    exact hdestination s
  · rw [hrun]
    show Q a ((s' s).affairs (late ++ []))
    rw [List.append_nil]
    exact hQ s late hstart

theorem covers_pure {a : α} (h : ∀ x, P x → Q a x) : Covers g lo lo P (pure a : Stage σ α) Q E :=
  covers_of_silent (fun _ => rfl) (fun _ => rfl) (fun s => (Engine.submitAll_nil s.engine).symm)
    (fun _ => rfl) fun _ _ => h _

theorem covers_throw {stop : Stop} (h : ∀ x, P x → E stop x) :
    Covers g lo hi P (throw stop : Stage σ α) Q E := by
  intro s late _ hstart
  refine ⟨[], .refl lo hi s.bench, rfl, ?_⟩
  show E stop (s.affairs (late ++ []))
  rw [List.append_nil]
  exact h _ hstart

/-- **One part after another.** -/
theorem covers_bind {f : α → Stage σ β} {R : β → Condition} (hjoin : Station.Joins lo mid mid' hi)
    (hm : Covers g lo mid P m Q E) (hf : ∀ a, Covers g mid' hi (Q a) (f a) R E) :
    Covers g lo hi P (m >>= f) R E := by
  intro s late hs hstart
  obtain ⟨made, hmade, hdestination, hends⟩ := hm s late hs hstart
  rw [perform_bind]
  rcases hrun : perform m s with ⟨stop | a, s'⟩
  · rw [hrun] at hmade hdestination hends
    exact ⟨made, hmade.mono le_rfl hjoin.le, hdestination, hends⟩
  · rw [hrun] at hmade hdestination hends
    obtain ⟨more, hmore, hdestination', hends'⟩ := hf a s' _ (hs.along hmade hdestination) hends
    refine ⟨made ++ more, hmade.join hjoin hmore, hdestination'.trans hdestination, ?_⟩
    rw [lateStations_append, ← List.append_assoc]
    exact hends'

/-- What depends on the session at hand starts exactly there. -/
theorem covers_look {f : Session σ → Stage σ β} {R : β → Condition}
    (hf : ∀ (s : Session σ) (late : List Station), s.UnderWay g late → P (s.affairs late) →
      Covers g lo hi (· = s.affairs late) (f s) R E) : Covers g lo hi P (get >>= f) R E := by
  intro s late hs hstart
  rw [perform_bind, perform_get]
  exact hf s late hs hstart s late hs rfl

/-- A change of the session away from its bench and its destination. -/
theorem covers_change {change : Session σ → Session σ} {Q : PUnit → Condition}
    (hkeeps : ∀ s, (change s).bench = s.bench ∧
      (change s).config.destination? = s.config.destination?)
    (hQ : ∀ s late, P (s.affairs late) → Q () ((change s).affairs late)) :
    Covers g lo lo P (modify change : Stage σ PUnit) Q E :=
  covers_of_silent (fun _ => rfl) (fun s => congrArg Bench.journal (hkeeps s).1)
    (fun s => (congrArg Bench.engine (hkeeps s).1).trans (Engine.submitAll_nil s.engine).symm)
    (fun s => (hkeeps s).2) hQ

/-- **To tell something** calls nobody. -/
theorem covers_tell {ns : List Notice} {Q : Unit → Condition}
    (hQ : ∀ (x : Affairs) (e : Engine), P x → e.errors = x.errors →
      Q () { x with errors := (e.submitAll (Notice.reports ns)).errors }) :
    Covers g lo lo P (job (Job.tell ns) : Stage σ Unit) Q E := by
  refine covers_of_silent (fun _ => rfl) (fun _ => rfl)
    (fun s => Desk.takeAll_engine s.bench.desk ns) (fun _ => rfl) fun s late hstart => ?_
  have hends := hQ _ s.engine hstart rfl
  rw [← show (s.bench.desk.takeAll ns).engine = _ from Desk.takeAll_engine s.bench.desk ns] at hends
  exact hends

/-- What one call settles. -/
theorem setup_of_call {s s' : Session σ} {call : Call} {errors : Nat} {granted : Bool}
    (hjournal : s'.bench.journal = s.bench.journal ++ [⟨call, errors, granted⟩])
    (houtput : s'.output = s.output) (hconfig : s'.config = s.config) :
    s'.setup = s.setup.note call granted := by
  unfold Session.setup
  rw [hjournal, houtput, hconfig, List.filterMap_append, List.filterMap_append]
  cases call with
  | init path debug => simp [Setup.note, JournalEntry.opening?, JournalEntry.saving?]
  | save path debug => simp [Setup.note, JournalEntry.opening?, JournalEntry.saving?]
  | _ =>
      -- No other call is looked for in the journal.
      show Setup.mk _ _ (_ ++ []) (_ ++ []) = _
      rw [List.append_nil, List.append_nil]
      rfl

/-- **A job that is one call**, and submits what it reports. -/
theorem covers_job_of_call [Answer α] {call : Call} {j : Job σ α} {rs : Bench σ → List Report}
    (hone : hi.rank = call.station.rank + 1)
    (hgate : call.station.needsNoError = true → ∀ x, P x → x.errors = 0)
    (hjournal : ∀ b, (j b).2.journal =
      b.journal ++ [⟨call, b.engine.errors, Answer.granted (j b).1⟩])
    (hengine : ∀ b, (j b).2.engine = b.engine.submitAll (rs b))
    (hQ : ∀ x (b : Bench σ), P x → b.engine.errors = x.errors →
      Q (j b).1 { x.called call (Answer.granted (j b).1) with
        errors := (b.engine.submitAll (rs b)).errors }) :
    Covers g call.station hi P (job j) Q E := by
  intro s late _ hstart
  refine ⟨_, .of_call hone (fun hneeds => hgate hneeds _ hstart) (hjournal s.bench)
    (hengine s.bench), rfl, ?_⟩
  have hends := hQ _ s.bench hstart rfl
  rw [← hengine] at hends
  have hsetup := @setup_of_call σ s { s with bench := (j s.bench).2 } _ _ _ (hjournal s.bench)
    rfl rfl
  show Q _ ⟨s.phase, (j s.bench).2.engine.errors, Session.setup { s with bench := (j s.bench).2 }, _⟩
  rw [hsetup]
  have hlate : lateStations [⟨call, s.bench.engine.errors, Answer.granted (j s.bench).1⟩] =
      calledBehind s.engine.errors call.station := List.append_nil _
  rw [hlate]
  exact hends

/-- **One call of a collaborator that cannot report.** -/
theorem covers_ask [Answer α] {call : Call} {act : Act σ α}
    (hone : hi.rank = call.station.rank + 1)
    (hgate : call.station.needsNoError = true → ∀ x, P x → x.errors = 0)
    (hQ : ∀ x site, P x → Q (act site).1 (x.called call (Answer.granted (act site).1))) :
    Covers g call.station hi P (ask call act) Q E := by
  refine @covers_job_of_call σ α g hi P Q E _ call _ (fun _ => []) hone hgate (Job.ask_journal call act)
    (fun b => (Job.ask_engine call act b).trans (Engine.submitAll_nil _).symm) fun x b hx herrors => ?_
  rw [Engine.submitAll_nil, herrors]
  exact hQ x ⟨b.own, b.files, []⟩ hx

/-- **One call of a collaborator that can report.** -/
theorem covers_consult [Answer α] {call : Call} {act : Engine → Act σ (α × List Report)}
    (hone : hi.rank = call.station.rank + 1)
    (hgate : call.station.needsNoError = true → ∀ x, P x → x.errors = 0)
    (hQ : ∀ x (e : Engine) site, P x → e.errors = x.errors →
      Q (act e site).1.1 { x.called call (Answer.granted (act e site).1.1) with
        errors := (e.submitAll (act e site).1.2).errors }) :
    Covers g call.station hi P (consult call act) Q E :=
  covers_job_of_call hone hgate (Job.consult_journal call act) (Job.consult_engine call act)
    fun x b hx herrors => hQ x b.engine ⟨b.own, b.files, []⟩ hx herrors

/-- **A job at one station** away from those that open and save settles nothing. -/
theorem covers_job {st : Station} {j : Job σ α} (hj : Job.Spans st hi j)
    (hone : hi.rank = st.rank + 1) (hopening : st ≠ .opening) (hsaving : st ≠ .saving)
    (hQ : ∀ a x n more, P x → x.errors ≤ n → (∀ st' ∈ more, st' = st) →
      Q a { x with errors := n, late := x.late ++ more }) :
    Covers g st hi P (job j) Q E := by
  intro s late _ hstart
  obtain ⟨made, hmade⟩ := hj s.bench
  have hstation : ∀ e ∈ made, e.station = st := fun e mem =>
    Station.rank_inj (by have := hmade.within e mem; omega)
  -- What is settled is read off the journal, and no entry of the job counts for it.
  have hopened : made.filterMap JournalEntry.opening? = [] :=
    List.filterMap_eq_nil_iff.mpr fun e mem =>
      JournalEntry.opening?_eq_none (hstation e mem ▸ hopening)
  have hsaves : made.filterMap JournalEntry.saving? = [] :=
    List.filterMap_eq_nil_iff.mpr fun e mem =>
      JournalEntry.saving?_eq_none (hstation e mem ▸ hsaving)
  have hsetup : ({ s with bench := (j s.bench).2 } : Session σ).setup = s.setup := by
    unfold Session.setup
    rw [hmade.journal, List.filterMap_append, List.filterMap_append, hopened, hsaves,
      List.append_nil, List.append_nil]
  refine ⟨made, hmade, rfl, ?_⟩
  show Q _ ⟨s.phase, (j s.bench).2.engine.errors, Session.setup { s with bench := (j s.bench).2 }, _⟩
  rw [hsetup]
  refine hQ _ (s.affairs late) _ _ hstart hmade.errors_le fun st' mem => ?_
  obtain ⟨e, hmem, -, rfl⟩ := mem_lateStations_iff.mp mem
  exact hstation e hmem

end Stage

end BatchCompiler

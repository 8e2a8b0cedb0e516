import BatchCompiler.Proofs.Pipeline.Covers

/-!
# What stages are made of

A stage is made of a few operations: it looks at the session, changes it away from its bench, tells
something, calls collaborators, or ends the run.  Whatever holds of each operation, and of two parts in
a row, holds of every stage; so the stages are gone through once, and what they are made of is said with
the conditions that lead from one operation to the next.

Two things follow for each: what it covers, and that it goes on alike from alike sessions.

## Main definitions

* `Stage.Does` — a part of a run is made of operations, and leads from one condition to another
* `Session.Stands` — a session under way meets a condition

## Main statements

* `Stage.Does.covers` — what it covers
* `Stage.Does.alike` — that it goes on alike
-/

namespace BatchCompiler

variable {σ : Type}

namespace Stage

/-- **A part of a run is made of operations.**  Its calls lie from station `lo` up to `hi`; it leads from
`P` to `Q` of its answer when it comes to its end, and to `E` of the reason when it ends the run.  Nothing
it does depends on what collaborators that are alike do not tell apart. -/
inductive Does (c : Collaborators σ) (g : Terms) : Station → Station → Condition → {α : Type} →
    Stage σ α → (α → Condition) → (Stop → Condition) → Prop
  | pure {lo : Station} {P : Condition} {α : Type} {Q : α → Condition} {E : Stop → Condition} (a : α)
      (hQ : ∀ x, P x → Q a x) : Does c g lo lo P (pure a : Stage σ α) Q E
  | throw {lo hi : Station} {P : Condition} {α : Type} {Q : α → Condition} {E : Stop → Condition}
      (stop : Stop) (hE : ∀ x, P x → E stop x) : Does c g lo hi P (throw stop : Stage σ α) Q E
  | bind {lo mid mid' hi : Station} {P : Condition} {α β : Type} {m : Stage σ α} {f : α → Stage σ β}
      {Q : α → Condition} {R : β → Condition} {E : Stop → Condition} (hm : Does c g lo mid P m Q E)
      (hf : ∀ a, Does c g mid' hi (Q a) (f a) R E) (hjoin : Station.Joins lo mid mid' hi) :
      Does c g lo hi P (m >>= f) R E
  /-- What is done may depend on the session at hand. -/
  | look {lo hi : Station} {P : Condition} {β : Type} {f : Session σ → Stage σ β}
      {Q : β → Condition} {E : Stop → Condition} (hblind : ∀ s s', s.LooksLike s' → f s = f s')
      (hf : ∀ (s : Session σ) (late : List Station), s.UnderWay g late → P (s.affairs late) →
        Does c g lo hi (· = s.affairs late) (f s) Q E) : Does c g lo hi P (get >>= f) Q E
  /-- The session is changed away from its bench and its destination. -/
  | change {lo : Station} {P : Condition} {f : Session σ → Session σ} {Q : PUnit → Condition}
      {E : Stop → Condition} (hkeeps : ∀ s, (f s).bench = s.bench ∧
        (f s).config.destination? = s.config.destination?)
      (halike : ∀ (l : Likeness σ) (s s' : Session σ), s.Alike l s' → (f s).Alike l (f s'))
      (hQ : ∀ (s : Session σ) (late : List Station), P (s.affairs late) →
        Q () ((f s).affairs late)) : Does c g lo lo P (modify f : Stage σ PUnit) Q E
  | tell {lo : Station} {P : Condition} {Q : Unit → Condition} {E : Stop → Condition}
      (ns : List Notice) (hQ : ∀ (x : Affairs) (e : Engine), P x → e.errors = x.errors →
        Q () { x with errors := (e.submitAll (Notice.reports ns)).errors }) :
      Does c g lo lo P (Stage.job (Job.tell ns) : Stage σ Unit) Q E
  /-- A collaborator that cannot report is called, other than to open the output. -/
  | ask {hi : Station} {P : Condition} {α : Type} [Answer α] {call : Call} {act : Act σ α}
      {Q : α → Condition} {E : Stop → Condition} (hone : hi.rank = call.station.rank + 1)
      (hapart : call.station ≠ .opening)
      (hgate : call.station.needsNoError = true → ∀ x, P x → x.errors = 0)
      (halike : ∀ l, c.Alike l → act.Alike (l.at call.station).own act)
      (hQ : ∀ x site, P x → Q (act site).1 (x.called call (Answer.granted (act site).1))) :
      Does c g call.station hi P (Stage.ask call act) Q E
  /-- A collaborator that can report is called. -/
  | consult {hi : Station} {P : Condition} {α : Type} [Answer α] {call : Call}
      {act : Engine → Act σ (α × List Report)} {Q : α → Condition} {E : Stop → Condition}
      (hone : hi.rank = call.station.rank + 1) (hapart : call.station ≠ .opening)
      (hgate : call.station.needsNoError = true → ∀ x, P x → x.errors = 0)
      (halike : ∀ l, c.Alike l → ∀ e e', l.engine e e' →
        (act e).Alike (l.at call.station).own (act e'))
      (hQ : ∀ x (e : Engine) site, P x → e.errors = x.errors →
        Q (act e site).1.1 { x.called call (Answer.granted (act e site).1.1) with
          errors := (e.submitAll (act e site).1.2).errors }) :
      Does c g call.station hi P (Stage.consult call act) Q E
  /-- A job is done at a station away from those that open and save. -/
  | job {st hi : Station} {P : Condition} {α : Type} {j : Job σ α} {Q : α → Condition}
      {E : Stop → Condition} (hj : Job.Does c st j) (hrepeats : st.repeats = true)
      (hfree : st.needsNoError = false) (hone : hi.rank = st.rank + 1)
      (hQ : ∀ a x n more, P x → x.errors ≤ n → (∀ st' ∈ more, st' = st) →
        Q a { x with errors := n, late := x.late ++ more }) :
      Does c g st hi P (Stage.job j) Q E
  /-- The output is opened, or the run is ended with a report why it could not be. -/
  | opening {hi : Station} {P : Condition} {β : Type} {path : Path} {debug : Bool}
      {f : Except Fault Unit → Stage σ β} {r : Fault → Report} {stop : Stop} {Q : β → Condition}
      {E : Stop → Condition} (hnone : ∀ x, P x → x.errors = 0)
      (hrefused : ∀ fault, f (.error fault) = do report (r fault); throw stop)
      (hE : ∀ fault x (e : Engine), P x → e.errors = x.errors →
        E stop { x.called (.init path debug) false with
          errors := (e.submitAll [r fault]).errors })
      (hopened : Does c g .moduleMark hi (fun x' => ∃ x, P x ∧ x' = x.called (.init path debug) true)
        (f (.ok ())) Q E) (hhi : Station.moduleMark.rank ≤ hi.rank) :
      Does c g .opening hi P (Stage.ask (.init path debug) (c.output.init path debug) >>= f) Q E
  /-- Less may be said. -/
  | weaken {lo lo' hi hi' : Station} {P P' : Condition} {α : Type} {m : Stage σ α}
      {Q Q' : α → Condition} {E E' : Stop → Condition} (h : Does c g lo hi P m Q E)
      (hlo : lo'.rank ≤ lo.rank) (hhi : hi.rank ≤ hi'.rank) (hopen : lo'.isOpen = lo.isOpen)
      (hopen' : hi'.isOpen = hi.isOpen) (hP : ∀ x, P' x → P x) (hQ : ∀ a x, Q a x → Q' a x)
      (hE : ∀ stop x, E stop x → E' stop x) : Does c g lo' hi' P' m Q' E'

variable {c : Collaborators σ} {g : Terms} {lo hi : Station} {P : Condition} {α : Type}
  {m : Stage σ α} {Q : α → Condition} {E : Stop → Condition}

/-! ## What it covers -/

/-- The call that opens the output. -/
theorem covers_init {path : Path} {debug : Bool} (hnone : ∀ x, P x → x.errors = 0) :
    Covers g .opening .moduleMark P (ask (.init path debug) (c.output.init path debug))
      (fun answer x' => ∃ x, P x ∧ x' = x.called (.init path debug) (Answer.granted answer)) E := by
  have hask : Covers g (Call.init path debug).station .moduleMark P
      (ask (.init path debug) (c.output.init path debug)) (fun answer x' => ∃ x, P x ∧
        x' = x.called (.init path debug) (Answer.granted answer)) E :=
    covers_ask rfl (fun _ => hnone) fun x _ hx => ⟨x, hx, rfl⟩
  exact hask

/-- **What is made of operations covers its stations.** -/
theorem Does.covers (h : Does c g lo hi P m Q E) : Covers g lo hi P m Q E := by
  induction h with
  | pure a hQ => exact covers_pure hQ
  | throw stop hE => exact covers_throw hE
  | bind _ _ hjoin ihm ihf => exact covers_bind hjoin ihm ihf
  | look _ _ ih => exact covers_look ih
  | change hkeeps _ hQ => exact covers_change hkeeps hQ
  | tell ns hQ => exact covers_tell hQ
  | ask hone _ hgate _ hQ => exact covers_ask hone hgate hQ
  | consult hone _ hgate _ hQ => exact covers_consult hone hgate hQ
  | job hj hrepeats hfree hone hQ =>
      refine covers_job (hj.spans hrepeats hfree hone) hone ?_ ?_ hQ
      · rintro rfl
        cases hrepeats
      · rintro rfl
        cases hrepeats
  | @opening hi P β path debug f r stop Q E hnone hrefused hE _ hhi ih =>
      refine covers_bind (.behind (by decide) hhi) (covers_init hnone) fun answer => ?_
      cases answer with
      | ok _ => exact ih
      | error fault =>
          rw [hrefused]
          refine covers_bind (Q := fun _ => E stop) (.behind le_rfl hhi) (covers_tell ?_) fun _ =>
            covers_throw fun _ => id
          rintro _ e ⟨x, hx, rfl⟩ herrors
          exact hE fault x e hx herrors
  | weaken _ hlo hhi _ _ hP hQ hE ih => exact ih.mono hlo hhi hP hQ hE

end Stage

/-! ## That it goes on alike -/

/-- **A session under way meets a condition.** -/
def Session.Stands (s : Session σ) (g : Terms) (P : Condition) : Prop :=
  ∃ late, s.UnderWay g late ∧ P (s.affairs late)

namespace Stage

variable {c : Collaborators σ} {g : Terms} {lo hi : Station} {P : Condition} {α : Type}
  {m : Stage σ α} {Q : α → Condition} {E : Stop → Condition}

/-- A part of a run that comes to its end leaves the session under way. -/
theorem Covers.stands (h : Covers g lo hi P m Q E) {s s' : Session σ} {a : α} (hs : s.Stands g P)
    (hrun : perform m s = (.ok a, s')) : s'.Stands g (Q a) := by
  obtain ⟨late, hs, hstart⟩ := hs
  obtain ⟨made, hmade, hdestination, hends⟩ := h s late hs hstart
  rw [hrun] at hmade hdestination hends
  exact ⟨_, hs.along hmade hdestination, hends⟩

/-- **The output is opened alike**: if it can be opened, the states of the collaborators are the same from
then on. -/
theorem sideBySide_init {l : Likeness σ} (hc : c.Alike l) (path : Path) (debug : Bool) :
    SideBySide (Session.Alike l) (Session.Alike l)
      (fun answer : Except Fault Unit => match answer with
        | .ok () => Session.Alike l.settled
        | .error _ => Session.Alike l)
      (ask (.init path debug) (c.output.init path debug))
      (ask (.init path debug) (c.output.init path debug)) := by
  intro s s' h
  obtain ⟨hanswer, hfiles, hown⟩ :=
    hc.init path debug s.bench.own s'.bench.own s.bench.files h.bench.own
  have hperform (s : Session σ) : perform (ask (.init path debug) (c.output.init path debug)) s =
      (.ok (Job.ask (.init path debug) (c.output.init path debug) s.bench).1,
        { s with bench := (Job.ask (.init path debug) (c.output.init path debug) s.bench).2 }) := rfl
  have hcall : (Job.ask (.init path debug) (c.output.init path debug) s.bench).1 =
      (c.output.init path debug ⟨s.bench.own, s.bench.files, []⟩).1 := rfl
  cases hopened : (c.output.init path debug ⟨s.bench.own, s.bench.files, []⟩).1 with
  | ok _ =>
      rw [hopened] at hown
      obtain ⟨hsame, hbench⟩ :=
        Job.alike_ask_of (.init path debug) (fun _ => rfl) h.bench hanswer hfiles hown
      refine .inl ⟨_, _, _, hperform s, (hperform s').trans (by rw [hsame]), ?_⟩
      rw [hcall, hopened]
      exact { h with bench := hbench }
  | error fault =>
      rw [hopened] at hown
      obtain ⟨hsame, hbench⟩ :=
        Job.alike_ask_of (.init path debug) l.own_refl h.bench hanswer hfiles hown
      refine .inl ⟨_, _, _, hperform s, (hperform s').trans (by rw [hsame]), ?_⟩
      rw [hcall, hopened]
      exact { h with bench := hbench }

/-- **What is made of operations goes on alike** from alike sessions, to the same end. -/
theorem Does.alike (h : Does c g lo hi P m Q E) {l : Likeness σ} (hc : c.Alike l) :
    SideBySide (Session.Alike l) (fun s s' => s.Stands g P ∧ s.Alike (l.at lo) s')
      (fun _ => Session.Alike (l.at hi)) m m := by
  -- A job goes on alike wherever the stations on both sides of it are.
  have hjob {st next : Station} {P : Condition} {β : Type} {j : Job σ β} (hj : j.Alike (l.at st))
      (hat : l.at next = l.at st) :
      SideBySide (Session.Alike l) (fun s s' => s.Stands g P ∧ s.Alike (l.at st) s')
        (fun _ => Session.Alike (l.at next)) (Stage.job j) (Stage.job j) := by
    rw [hat]
    exact (inStep_job hj).mono (fun _ _ h => h.of_at) (fun _ _ h => h.2) fun _ _ _ => id
  induction h with
  | pure a => exact sideBySide_pure fun _ _ h => h.2
  | throw stop => exact sideBySide_throw fun _ _ h => h.2.of_at
  | @bind lo mid mid' hi P α β m f Q R E hm _ hjoin ihm ihf =>
      refine SideBySide.bind (S := fun a s s' => s.Stands g (Q a) ∧ s.Alike (l.at mid') s') ?_ ihf
      intro s s' hs
      rcases ihm s s' hs with ⟨a, t, t', hrun, hrun', halike⟩ | hended
      · rw [l.at_eq_of_joins hjoin] at halike
        exact .inl ⟨a, t, t', hrun, hrun', hm.covers.stands hs.1 hrun, halike⟩
      · exact .inr hended
  | look hblind _ ih =>
      rintro s s' ⟨⟨late, hs, hstart⟩, halike⟩
      rw [perform_bind, perform_get, perform_bind, perform_get]
      dsimp only
      rw [← hblind s s' (.of_alike halike)]
      exact ih s late hs hstart s s' ⟨⟨late, hs, rfl⟩, halike⟩
  | change _ halike => exact sideBySide_modify fun s s' h => halike _ s s' h.2
  | tell ns => exact hjob (Job.alike_tell ns) rfl
  | ask hone hapart _ halike =>
      exact hjob (Job.alike_ask _ (halike l hc)) (l.at_eq_of_next hapart hone)
  | consult hone hapart _ halike =>
      refine hjob (Job.alike_consult _ fun e e' he => halike l hc e e' ?_)
        (l.at_eq_of_next hapart hone)
      rwa [l.engine_at] at he
  | job hj hrepeats _ hone =>
      exact hjob (hj.alike hc) (l.at_eq_of_joins (.again hrepeats hone))
  | @opening hi P β path debug f r stop Q E hnone hrefused _ _ _ ih =>
      refine SideBySide.bind (S := fun answer s s' => s.Stands g (fun x' => ∃ x, P x ∧
        x' = x.called (.init path debug) (Answer.granted answer)) ∧ (match answer with
          | .ok () => Session.Alike l.settled
          | .error _ => Session.Alike l) s s') ?_ fun answer => ?_
      · intro s s' hs
        rcases sideBySide_init hc path debug s s' hs.2 with
          ⟨answer, t, t', hrun, hrun', halike⟩ | hended
        · exact .inl ⟨answer, t, t', hrun, hrun', (covers_init (E := E) hnone).stands hs.1 hrun, halike⟩
        · exact .inr hended
      · cases answer with
        | ok _ => exact ih
        | error fault =>
            rw [hrefused]
            refine SideBySide.bind (S := fun _ => Session.Alike l) ?_ fun _ =>
              sideBySide_throw fun _ _ => id
            exact (inStep_job (Job.alike_tell _)).mono (fun _ _ => id) (fun _ _ h => h.2)
              fun _ _ _ => id
  | weaken _ _ _ hopen hopen' hP _ _ ih =>
      refine ih.mono (fun _ _ => id) ?_ ?_
      · rintro s s' ⟨⟨late, hs, hstart⟩, halike⟩
        refine ⟨⟨late, hs, hP _ hstart⟩, ?_⟩
        unfold Likeness.at at halike ⊢
        rwa [hopen] at halike
      · intro a s s' halike
        unfold Likeness.at at halike ⊢
        rwa [hopen']

end Stage

end BatchCompiler

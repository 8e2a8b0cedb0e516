import BatchCompiler.Pipeline.Stages
import BatchCompiler.Proofs.Action
import BatchCompiler.Proofs.Pipeline.Stretch

/-!
# What a part of a run prepares

Most parts of a run only read the file system, and lead from one draft of the output to the next.
What they have drafted matters as long as no error is counted, since an error keeps the output from
being saved; that they leave the files alone matters in any case.  The rules below take a stage
apart into its jobs and checks.

## Main definitions

* `Bench.Keeps` — what most parts of a run leave of a bench
* `Draft`, `Session.draft` — what a run has prepared of its output
* `Job.Makes` — a job that leaves the files, with what it makes of the collaborators' state
* `Stage.Prepares` — a part of a run that leaves the files, with the drafts it leads from and to

## Main statements

* `Job.makes_bind`, `Stage.prepares_bind` — one part after another
* `Job.makes_ask`, `Stage.prepares_consult` — one call
-/

namespace BatchCompiler

variable {σ α β : Type}

/-! ## Jobs -/

/-- **The files are left alone**, no error is taken back and no call forgotten. -/
structure Bench.Keeps (b b' : Bench σ) : Prop where
  files : b'.files = b.files
  errors : b.engine.errors ≤ b'.engine.errors
  journal : b.journal <+: b'.journal

namespace Bench.Keeps

variable {b b' b'' : Bench σ}

theorem refl (b : Bench σ) : b.Keeps b := ⟨rfl, le_rfl, List.prefix_rfl⟩

theorem trans (h : b.Keeps b') (h' : b'.Keeps b'') : b.Keeps b'' :=
  ⟨h'.files.trans h.files, h.errors.trans h'.errors, h.journal.trans h'.journal⟩

/-- Without an error in the end there was none at the start. -/
theorem errors_eq_zero (h : b.Keeps b') (hzero : b'.engine.errors = 0) : b.engine.errors = 0 :=
  Nat.le_zero.mp (hzero ▸ h.errors)

end Bench.Keeps

namespace Job

/-- **A job that leaves the files.**  If no error is counted in the end, `R` holds of the
collaborators' state before, the answer, and the state after. -/
def Makes (files : FileSystem) (j : Job σ α) (R : σ → α → σ → Prop) : Prop :=
  ∀ b, b.files = files →
    b.Keeps (j b).2 ∧ ((j b).2.engine.errors = 0 → R b.own (j b).1 (j b).2.own)

variable {files : FileSystem} {j : Job σ α} {R R' : σ → α → σ → Prop}

theorem Makes.imp (h : Makes files j R) (hR : ∀ own a own', R own a own' → R' own a own') :
    Makes files j R' := by
  intro b hb
  obtain ⟨hkeeps, hmade⟩ := h b hb
  exact ⟨hkeeps, fun hzero => hR _ _ _ (hmade hzero)⟩

theorem makes_pure {a : α} (h : ∀ own, R own a own) : Makes files (pure a : Job σ α) R :=
  fun b _ => ⟨.refl b, fun _ => h b.own⟩

/-- **One job after another.** -/
theorem makes_bind {f : α → Job σ β} {T : σ → β → σ → Prop} (hj : Makes files j R)
    (hf : ∀ a, Makes files (f a) fun own' b own'' => ∀ own, R own a own' → T own b own'') :
    Makes files (j >>= f) T := by
  intro b hb
  obtain ⟨hkeeps, hmade⟩ := hj b hb
  obtain ⟨hkeeps', hmade'⟩ := hf (j b).1 (j b).2 (hkeeps.files.trans hb)
  refine ⟨hkeeps.trans hkeeps', fun hzero => hmade' hzero _ (hmade ?_)⟩
  exact hkeeps'.errors_eq_zero hzero

theorem makes_files_bind {f : FileSystem → Job σ β} {T : σ → β → σ → Prop}
    (hf : Makes files (f files) T) : Makes files (Job.files >>= f) T := by
  intro b hb
  have h := hf b hb
  rwa [← hb] at h

/-- **Notices** are taken in, and no error is among them if none is counted then. -/
theorem makes_tell (ns : List Notice) :
    Makes files (tell ns : Job σ Unit) fun own _ own' => own' = own ∧
      ∀ r ∈ Notice.reports ns, r.diagnostic.severity ≠ .error := by
  intro b hb
  have hengine : ((tell ns : Job σ Unit) b).2.engine = b.engine.submitAll (Notice.reports ns) :=
    Desk.takeAll_engine b.desk ns
  refine ⟨⟨rfl, ?_, List.prefix_rfl⟩, fun hzero => ⟨rfl, fun r mem herror => ?_⟩⟩
  · rw [hengine]
    exact Engine.errors_le_submitAll _ _
  · have hpos := Engine.errors_pos_submitAll_of_mem mem herror b.engine
    rw [hengine] at hzero
    omega

/-- **One call of a collaborator** that leaves the files. -/
theorem makes_ask [Answer α] (call : Call) {act : Act σ α}
    (hact : ∀ own, (act ⟨own, files, []⟩).2.files = files) :
    Makes files (ask call act) fun own a own' =>
      a = (act ⟨own, files, []⟩).1 ∧ own' = (act ⟨own, files, []⟩).2.own := by
  intro b hb
  subst hb
  refine ⟨⟨hact b.own, ?_, ?_⟩, fun _ => ⟨rfl, rfl⟩⟩
  · rw [ask_engine]
  · rw [ask_journal]
    exact List.prefix_append _ _

/-- **One call of a collaborator that can report**: no error is among its reports if none is counted
then. -/
theorem makes_consult [Answer α] (call : Call) {act : Engine → Act σ (α × List Report)}
    (hact : ∀ engine own, (act engine ⟨own, files, []⟩).2.files = files) :
    Makes files (consult call act) fun own a own' => ∃ engine,
      a = (act engine ⟨own, files, []⟩).1.1 ∧ own' = (act engine ⟨own, files, []⟩).2.own ∧
        ∀ r ∈ (act engine ⟨own, files, []⟩).1.2, r.diagnostic.severity ≠ .error := by
  intro b hb
  subst hb
  have hengine := consult_engine call act b
  refine ⟨⟨hact b.engine b.own, ?_, ?_⟩, fun hzero => ⟨b.engine, rfl, rfl, fun r mem herror => ?_⟩⟩
  · rw [hengine]
    exact Engine.errors_le_submitAll _ _
  · rw [consult_journal]
    exact List.prefix_append _ _
  · have hpos := Engine.errors_pos_submitAll_of_mem mem herror b.engine
    rw [hengine] at hzero
    omega

end Job

/-! ## Drafts -/

/-- **What a run has prepared of its output**: the state of the collaborators, the configuration by
now, the tree, the link path, the path of the output and the entry point found. -/
structure Draft (σ : Type) where
  own : σ
  config : Config
  tree : ProgramTree
  linkPaths : List Path
  output : Option Path
  entryPoint : Option EntryPoint

/-- **The draft of a session.** -/
def Session.draft (s : Session σ) : Draft σ where
  own := s.bench.own
  config := s.config
  tree := s.tree
  linkPaths := s.resolver.linkPaths
  output := s.output
  entryPoint := s.entryPoint

namespace Stage

/-- **A part of a run that leaves the files.**  It leads from a draft that meets `P` to one that
meets `Q`, when it comes to its end and no error is counted then. -/
def Prepares (files : FileSystem) (P : Draft σ → Prop) (m : Stage σ α)
    (Q : α → Draft σ → Prop) : Prop :=
  ∀ s : Session σ, s.bench.files = files → (s.engine.errors = 0 → P s.draft) →
    s.bench.Keeps (perform m s).2.bench ∧
      ∀ a s', perform m s = (.ok a, s') → s'.engine.errors = 0 → Q a s'.draft

variable {files : FileSystem} {P P' : Draft σ → Prop} {m : Stage σ α}
  {Q Q' : α → Draft σ → Prop}

theorem Prepares.mono (h : Prepares files P m Q) (hP : ∀ d, P' d → P d)
    (hQ : ∀ a d, Q a d → Q' a d) : Prepares files P' m Q' := by
  intro s hs hdraft
  obtain ⟨hkeeps, hends⟩ := h s hs fun hzero => hP _ (hdraft hzero)
  exact ⟨hkeeps, fun a s' hrun hzero => hQ _ _ (hends a s' hrun hzero)⟩

theorem Prepares.post (h : Prepares files P m Q) (hQ : ∀ a d, Q a d → Q' a d) :
    Prepares files P m Q' := h.mono (fun _ => id) hQ

theorem Prepares.pre (h : Prepares files P m Q) (hP : ∀ d, P' d → P d) : Prepares files P' m Q :=
  h.mono hP fun _ _ => id

theorem prepares_pure {a : α} (h : ∀ d, P d → Q a d) :
    Prepares files P (pure a : Stage σ α) Q := by
  refine fun s hs hdraft => ⟨.refl s.bench, ?_⟩
  rintro b s' ⟨⟩ hzero
  exact h _ (hdraft hzero)

/-- Where a run ends nothing is drafted. -/
theorem prepares_throw (stop : Stop) : Prepares files P (throw stop : Stage σ α) Q := by
  refine fun s hs _ => ⟨.refl s.bench, ?_⟩
  rintro a s' ⟨⟩

/-- **One part after another.** -/
theorem prepares_bind {f : α → Stage σ β} {R : β → Draft σ → Prop}
    (hm : Prepares files P m Q) (hf : ∀ a, Prepares files (Q a) (f a) R) :
    Prepares files P (m >>= f) R := by
  intro s hs hdraft
  obtain ⟨hkeeps, hends⟩ := hm s hs hdraft
  rw [perform_bind]
  rcases hrun : perform m s with ⟨stop | a, s'⟩
  · rw [hrun] at hkeeps
    exact ⟨hkeeps, by rintro b s'' ⟨⟩⟩
  · rw [hrun] at hkeeps
    obtain ⟨hkeeps', hends'⟩ := hf a s' (hkeeps.files.trans hs) (hends a s' hrun)
    exact ⟨hkeeps.trans hkeeps', hends'⟩

theorem prepares_throw_bind (stop : Stop) {f : α → Stage σ β} {R : β → Draft σ → Prop} :
    Prepares files P (throw stop >>= f) R := prepares_throw stop

/-- What depends on the session at hand starts at its draft. -/
theorem prepares_get_bind {f : Session σ → Stage σ β} {R : β → Draft σ → Prop}
    (hf : ∀ s : Session σ, s.bench.files = files →
      Prepares files (fun d => d = s.draft ∧ P d) (f s) R) : Prepares files P (get >>= f) R := by
  intro s hs hdraft
  rw [perform_bind, perform_get]
  exact hf s hs s hs fun hzero => ⟨rfl, hdraft hzero⟩

/-- **What is known of the start** may be used at the end, when no error is counted then. -/
theorem Prepares.given {fact : Prop} (h : Prepares files P m fun a d => fact → Q a d)
    (hfact : ∀ d, P' d → P d ∧ fact) : Prepares files P' m Q := by
  intro s hs hdraft
  obtain ⟨hkeeps, hends⟩ := h s hs fun hzero => (hfact _ (hdraft hzero)).1
  refine ⟨hkeeps, fun a s' hrun hzero => hends a s' hrun hzero ?_⟩
  rw [hrun] at hkeeps
  exact (hfact _ (hdraft (hkeeps.errors_eq_zero hzero))).2

/-- **What a part of a run makes of every draft** it makes of one that meets a condition. -/
theorem prepares_of_forall {R : Draft σ → α → Draft σ → Prop}
    (h : ∀ d₀, Prepares files (· = d₀) m (R d₀))
    (hR : ∀ d₀ a d, P d₀ → R d₀ a d → Q a d) : Prepares files P m Q := by
  intro s hs hdraft
  obtain ⟨hkeeps, hends⟩ := h s.draft s hs fun _ => rfl
  refine ⟨hkeeps, fun a s' hrun hzero => hR _ _ _ (hdraft ?_) (hends a s' hrun hzero)⟩
  rw [hrun] at hkeeps
  exact hkeeps.errors_eq_zero hzero

/-- **One part after another**, from one draft to the next. -/
theorem prepares_step {f : α → Stage σ β} {R : β → Draft σ → Prop}
    (hm : Prepares files P m Q)
    (hf : ∀ a d₁, Prepares files (· = d₁) (f a) fun b d => Q a d₁ → R b d) :
    Prepares files P (m >>= f) R :=
  prepares_bind hm fun a => prepares_of_forall (hf a) fun _ _ _ h h' => h' h

/-- What depends on the session at hand may be related to the draft at the end. -/
theorem prepares_get_bind_eq {d₀ : Draft σ} {f : Session σ → Stage σ β}
    {R : β → Draft σ → Prop} (hf : ∀ s : Session σ, s.bench.files = files →
      Prepares files (· = d₀) (f s) fun b d => s.draft = d₀ → R b d) :
    Prepares files (· = d₀) (get >>= f) R :=
  prepares_get_bind fun s hs => (hf s hs).given fun _ h => ⟨h.2, h.1.symm.trans h.2⟩

/-- A change of the session away from its bench. -/
theorem prepares_modify {change : Session σ → Session σ} {Q : PUnit → Draft σ → Prop}
    (hbench : ∀ s, (change s).bench = s.bench) (hQ : ∀ s, P s.draft → Q () (change s).draft) :
    Prepares files P (modify change : Stage σ PUnit) Q := by
  intro s hs hdraft
  rw [perform_modify]
  have hkeeps : s.bench.Keeps (change s).bench := by
    rw [hbench]
    exact .refl s.bench
  refine ⟨hkeeps, ?_⟩
  rintro a s' ⟨⟩ hzero
  exact hQ s (hdraft (hkeeps.errors_eq_zero hzero))

/-- **A job.** -/
theorem prepares_job {j : Job σ α} {R : σ → α → σ → Prop} (hj : Job.Makes files j R)
    (hQ : ∀ d a own, P d → R d.own a own → Q a { d with own }) :
    Prepares files P (job j) Q := by
  intro s hs hdraft
  obtain ⟨hkeeps, hmade⟩ := hj s.bench hs
  refine ⟨hkeeps, ?_⟩
  rintro a s' ⟨⟩ hzero
  exact hQ s.draft _ _ (hdraft (hkeeps.errors_eq_zero hzero)) (hmade hzero)

/-- A job that leaves the collaborators' state. -/
theorem prepares_job_keeps {j : Job σ α} {S : α → Prop}
    (hj : Job.Makes files j fun own a own' => own' = own ∧ S a) :
    Prepares files P (job j) fun a d => P d ∧ S a := by
  refine prepares_job hj ?_
  rintro d a own hd ⟨rfl, hS⟩
  exact ⟨hd, hS⟩

/-- Notices leave the draft. -/
theorem prepares_tell (ns : List Notice) :
    Prepares files P (job (Job.tell ns) : Stage σ Unit) fun _ => P := by
  refine prepares_job (Job.makes_tell ns) ?_
  rintro d a own hd ⟨rfl, -⟩
  exact hd

theorem prepares_report (r : Report) : Prepares files P (report r : Stage σ Unit) fun _ => P :=
  prepares_tell [.report r]

/-- A report before the run is ended. -/
theorem prepares_report_throw (r : Report) (stop : Stop) :
    Prepares files P (do report r; throw stop : Stage σ α) Q :=
  prepares_bind (prepares_report r) fun _ => prepares_throw stop

theorem prepares_log (level : LogLevel) (message : String) :
    Prepares files P (log level message : Stage σ Unit) fun _ => P :=
  prepares_tell [.log level .pipeline message]

/-- **Behind an error nothing is drafted.** -/
theorem prepares_tell_of_error {ns : List Notice} {r : Report} {Q : Unit → Draft σ → Prop}
    (mem : r ∈ Notice.reports ns) (herror : r.diagnostic.severity = .error) :
    Prepares files P (job (Job.tell ns) : Stage σ Unit) Q :=
  prepares_job (Job.makes_tell ns) fun _ _ _ _ h => absurd herror (h.2 r mem)

theorem prepares_error (code : Int) (message : String) {Q : Unit → Draft σ → Prop} :
    Prepares files P (error code message : Stage σ Unit) Q :=
  prepares_tell_of_error (List.mem_singleton_self _) rfl

theorem prepares_lap (message : String) :
    Prepares files P (lap message : Stage σ Unit) fun _ => P := by
  refine prepares_get_bind fun s _ => ?_
  split
  · exact (prepares_tell _).post fun _ _ h => h.2
  · exact prepares_pure fun _ h => h.2

theorem prepares_enter (phase : Phase) :
    Prepares files P (enter phase : Stage σ Unit) fun _ => P :=
  prepares_bind (prepares_log _ _) fun _ => prepares_modify (fun _ => by rfl) fun _ h => h

/-- **One call of a collaborator** that leaves the files. -/
theorem prepares_ask [Answer α] (call : Call) {act : Act σ α}
    (hact : ∀ own, (act ⟨own, files, []⟩).2.files = files)
    (hQ : ∀ d, P d →
      Q (act ⟨d.own, files, []⟩).1 { d with own := (act ⟨d.own, files, []⟩).2.own }) :
    Prepares files P (ask call act) Q := by
  refine prepares_job (Job.makes_ask call hact) ?_
  rintro d a own hd ⟨rfl, rfl⟩
  exact hQ d hd

/-- **One call of a collaborator that can report**, and does not report an error. -/
theorem prepares_consult [Answer α] (call : Call) {act : Engine → Act σ (α × List Report)}
    (hact : ∀ engine own, (act engine ⟨own, files, []⟩).2.files = files)
    (hQ : ∀ d engine, P d →
      (∀ r ∈ (act engine ⟨d.own, files, []⟩).1.2, r.diagnostic.severity ≠ .error) →
      Q (act engine ⟨d.own, files, []⟩).1.1
        { d with own := (act engine ⟨d.own, files, []⟩).2.own }) :
    Prepares files P (consult call act) Q := by
  refine prepares_job (Job.makes_consult call hact) ?_
  rintro d a own hd ⟨engine, rfl, rfl, hreports⟩
  exact hQ d engine hd hreports

/-- One call that leaves the collaborators' state as well. -/
theorem prepares_ask_keeps [Answer α] (call : Call) {act : Act σ α}
    (hact : ∀ own, (act ⟨own, files, []⟩).2.own = own ∧ (act ⟨own, files, []⟩).2.files = files)
    (hQ : ∀ d, P d → Q (act ⟨d.own, files, []⟩).1 d) : Prepares files P (ask call act) Q := by
  refine prepares_ask call (fun own => (hact own).2) fun d hd => ?_
  rw [(hact d.own).1]
  exact hQ d hd

theorem prepares_consult_keeps [Answer α] (call : Call) {act : Engine → Act σ (α × List Report)}
    (hact : ∀ engine own, (act engine ⟨own, files, []⟩).2.own = own ∧
      (act engine ⟨own, files, []⟩).2.files = files)
    (hQ : ∀ d engine, P d →
      (∀ r ∈ (act engine ⟨d.own, files, []⟩).1.2, r.diagnostic.severity ≠ .error) →
      Q (act engine ⟨d.own, files, []⟩).1.1 d) : Prepares files P (consult call act) Q := by
  refine prepares_consult call (fun engine own => (hact engine own).2) fun d engine hd hnone => ?_
  rw [(hact engine d.own).1]
  exact hQ d engine hd hnone

theorem prepares_stopIfFatal : Prepares files P (stopIfFatal : Stage σ Unit) fun _ => P := by
  refine prepares_get_bind fun s _ => ?_
  split
  · exact prepares_bind (prepares_log _ _) fun _ => prepares_throw _
  · exact prepares_pure fun _ h => h.2

theorem prepares_gate : Prepares files P (gate : Stage σ Unit) fun _ => P := by
  refine prepares_bind prepares_stopIfFatal fun _ => prepares_get_bind fun s _ => ?_
  split
  · exact prepares_bind (prepares_log _ _) fun _ => prepares_throw _
  · exact prepares_pure fun _ h => h.2

end Stage

end BatchCompiler

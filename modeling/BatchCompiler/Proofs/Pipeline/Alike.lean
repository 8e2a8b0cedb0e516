import BatchCompiler.Pipeline.Run
import BatchCompiler.Proofs.Diagnostic.Muffled
import BatchCompiler.Proofs.Pipeline.Stretch
import BatchCompiler.Proofs.SideBySide

/-!
# Sessions side by side

Two sessions under way are alike if they agree in everything that decides the course of a run:
configuration, file system, references, tree, phase, output, entry point.  What may differ is said by a
*likeness*: how the states of the collaborators are related, and how the engines are.  Transcripts may
differ freely, for no part of a run reads them.  The calls made since the comparison began are the same.

Before the output is opened the states of the collaborators may differ, and the collaborators that are
called until then must not tell them apart; opening the output must leave no difference between the
states; and who is shown the engine must make nothing of what differs there.

## Main definitions

* `Likeness` — what may differ
* `Session.Alike` — sessions that are alike
* `Session.LooksLike` — sessions that look alike to a part of a run
* `Act.Alike`, `Job.Alike` — acts and jobs that cannot tell them apart
* `Collaborators.Alike` — collaborators that do not tell two runs apart

## Main statements

* `Job.alike_ask`, `Job.alike_consult` — one call
-/

namespace BatchCompiler

variable {σ α β : Type}

/-- **What may differ between two sessions**: the states of the collaborators and the engines, within
relations, and the calls that were made before. -/
structure Likeness (σ : Type) where
  own : σ → σ → Prop
  engine : Engine → Engine → Prop
  before : List JournalEntry × List JournalEntry
  own_refl : ∀ o, own o o
  congruence : Engine.Congruence engine

/-- **No difference at all**, but for the calls made before. -/
def Likeness.same (σ : Type) (before : List JournalEntry × List JournalEntry) : Likeness σ where
  own := Eq
  engine := Eq
  before
  own_refl _ := rfl
  congruence := Engine.congruence_eq

/-- The likeness that leaves no difference between the states of the collaborators. -/
def Likeness.settled (l : Likeness σ) : Likeness σ := { l with own := Eq, own_refl := fun _ => rfl }

/-- **The likeness at a station**: once the output is open the states of the collaborators are the
same. -/
def Likeness.at (l : Likeness σ) (st : Station) : Likeness σ := if st.isOpen then l.settled else l

theorem Likeness.engine_at (l : Likeness σ) (st : Station) : (l.at st).engine = l.engine := by
  unfold Likeness.at
  split
  · rfl
  · rfl

/-- Only the opening itself makes a difference. -/
theorem Likeness.at_eq_of_next (l : Likeness σ) {st next : Station} (hst : st ≠ .opening)
    (hone : next.rank = st.rank + 1) : l.at next = l.at st := by
  unfold Likeness.at
  rw [Station.isOpen_eq_of_next hst hone]

theorem Likeness.at_eq_of_joins (l : Likeness σ) {lo mid mid' hi : Station}
    (h : Station.Joins lo mid mid' hi) : l.at mid = l.at mid' := by
  cases h with
  | behind => rfl
  | again hrepeats hone =>
      refine l.at_eq_of_next ?_ hone
      rintro rfl
      cases hrepeats

/-- **Two benches are alike.** -/
structure Bench.Alike (l : Likeness σ) (b b' : Bench σ) : Prop where
  own : l.own b.own b'.own
  files : b.files = b'.files
  engine : l.engine b.engine b'.engine
  journal : ∃ made, b.journal = l.before.1 ++ made ∧ b'.journal = l.before.2 ++ made

/-- **Two sessions under way are alike.** -/
structure Session.Alike (l : Likeness σ) (s s' : Session σ) : Prop where
  bench : s.bench.Alike l s'.bench
  config : s.config = s'.config
  resolver : s.resolver = s'.resolver
  tree : s.tree = s'.tree
  phase : s.phase = s'.phase
  output : s.output = s'.output
  entryPoint : s.entryPoint = s'.entryPoint
  finished : s.finished = true ∧ s'.finished = true

variable {l : Likeness σ}

namespace Session.Alike

variable {s s' : Session σ}

theorem of_settled (h : s.Alike l.settled s') : s.Alike l s' := by
  have hown : s.bench.own = s'.bench.own := h.bench.own
  have hbench : s.bench.Alike l s'.bench :=
    ⟨hown ▸ l.own_refl _, h.bench.files, h.bench.engine, h.bench.journal⟩
  exact { h with bench := hbench }

theorem of_at {st : Station} (h : s.Alike (l.at st) s') : s.Alike l s' := by
  unfold Likeness.at at h
  split at h
  · exact h.of_settled
  · exact h

theorem errors (h : s.Alike l s') : s.engine.errors = s'.engine.errors :=
  l.congruence.errors h.bench.engine

theorem outcome (h : s.Alike l s') : s.outcome = s'.outcome := by
  unfold Session.outcome
  rw [h.phase, h.output, h.entryPoint]

end Session.Alike

/-- **Two sessions look alike** to a part of a run: it looks neither at the transcript, nor at the journal,
nor at the states of the collaborators; and of the engine it sees whether errors are fatal and how many
there are. -/
structure Session.LooksLike (s s' : Session σ) : Prop where
  config : s.config = s'.config
  resolver : s.resolver = s'.resolver
  tree : s.tree = s'.tree
  phase : s.phase = s'.phase
  output : s.output = s'.output
  entryPoint : s.entryPoint = s'.entryPoint
  files : s.bench.files = s'.bench.files
  errors : s.engine.errors = s'.engine.errors
  fatal : s.engine.policy.fatal = s'.engine.policy.fatal

namespace Session.LooksLike

variable {s s' : Session σ}

theorem of_alike (h : s.Alike l s') : s.LooksLike s' :=
  ⟨h.config, h.resolver, h.tree, h.phase, h.output, h.entryPoint, h.bench.files, h.errors,
    l.congruence.fatal h.bench.engine⟩

theorem hasErrors (h : s.LooksLike s') : s.engine.hasErrors = s'.engine.hasErrors := by
  unfold Engine.hasErrors
  rw [h.errors]

theorem fatalErrorSeen (h : s.LooksLike s') :
    s.engine.fatalErrorSeen = s'.engine.fatalErrorSeen := by
  unfold Engine.fatalErrorSeen
  rw [h.fatal, h.hasErrors]

theorem missingEntryPoint?_eq (h : s.LooksLike s') :
    Stage.missingEntryPoint? s = Stage.missingEntryPoint? s' := by
  unfold Stage.missingEntryPoint?
  rw [h.config, h.tree, h.hasErrors, h.output]

end Session.LooksLike

/-! ## Acts -/

/-- **Two acts cannot be told apart** on the same files: they answer alike, leave the same files, and
keep the relation of the states. -/
def Act.Alike (own : σ → σ → Prop) (act act' : Act σ α) : Prop :=
  ∀ o o' files, own o o' →
    (act ⟨o, files, []⟩).1 = (act' ⟨o', files, []⟩).1 ∧
      (act ⟨o, files, []⟩).2.files = (act' ⟨o', files, []⟩).2.files ∧
        own (act ⟨o, files, []⟩).2.own (act' ⟨o', files, []⟩).2.own

/-- On one state, an act is like itself. -/
theorem Act.alike_eq (act : Act σ α) : Act.Alike Eq act act := by
  rintro o _ files rfl
  exact ⟨rfl, rfl, rfl⟩

/-- Where the output is open, the same act on both sides makes no difference. -/
theorem Act.alike_at {st : Station} (hst : st.isOpen = true) {act act' : Act σ α} (h : act = act') :
    Act.Alike (l.at st).own act act' := by
  unfold Likeness.at
  rw [if_pos hst, ← h]
  exact Act.alike_eq act

/-- Where the output is still to be opened, the states may differ. -/
theorem Act.Alike.at {st : Station} (hst : st.isOpen = false) {act act' : Act σ α}
    (h : Act.Alike l.own act act') : Act.Alike (l.at st).own act act' := by
  unfold Likeness.at
  rwa [if_neg (by rw [hst]; decide)]

/-- What is made of the answers afterwards is no matter of the acts. -/
theorem Act.Alike.answer {own : σ → σ → Prop} {act act' : Act σ α} (h : Act.Alike own act act')
    (f : α → β) : Act.Alike own (do return f (← act)) (do return f (← act')) := by
  intro o o' files ho
  obtain ⟨hanswer, hfiles, hown⟩ := h o o' files ho
  exact ⟨congrArg f hanswer, hfiles, hown⟩

/-! ## Jobs -/

namespace Job

/-- **A job cannot tell the two benches apart.** -/
def Alike (l : Likeness σ) (j : Job σ α) : Prop :=
  ∀ b b', Bench.Alike l b b' → (j b).1 = (j b').1 ∧ Bench.Alike l (j b).2 (j b').2

theorem alike_pure (a : α) : Alike l (pure a : Job σ α) := fun _ _ h => ⟨rfl, h⟩

theorem Alike.bind {j : Job σ α} {f : α → Job σ β} (hj : Alike l j) (hf : ∀ a, Alike l (f a)) :
    Alike l (j >>= f) := by
  intro b b' h
  obtain ⟨hanswer, hbench⟩ := hj b b' h
  show (f (j b).1 (j b).2).1 = (f (j b').1 (j b').2).1 ∧
    Bench.Alike l (f (j b).1 (j b).2).2 (f (j b').1 (j b').2).2
  rw [hanswer]
  exact hf _ _ _ hbench

theorem alike_files : Alike l (files : Job σ FileSystem) := fun _ _ h => ⟨h.files, h⟩

/-- The same notices are taken in. -/
theorem alike_tell (ns : List Notice) : Alike l (tell ns : Job σ Unit) := by
  intro b b' h
  refine ⟨rfl, h.own, h.files, ?_, h.journal⟩
  show l.engine (b.desk.takeAll ns).engine (b'.desk.takeAll ns).engine
  rw [Desk.takeAll_engine, Desk.takeAll_engine]
  exact l.congruence.submitAll h.engine _

/-- **One call.**  The states of the collaborators may be related in another way behind it. -/
theorem alike_ask_of [Answer α] (call : Call) {act act' : Act σ α} {own : σ → σ → Prop}
    (own_refl : ∀ o, own o o) {b b' : Bench σ} (h : b.Alike l b')
    (hanswer : (act ⟨b.own, b.files, []⟩).1 = (act' ⟨b'.own, b.files, []⟩).1)
    (hfiles : (act ⟨b.own, b.files, []⟩).2.files = (act' ⟨b'.own, b.files, []⟩).2.files)
    (hown : own (act ⟨b.own, b.files, []⟩).2.own (act' ⟨b'.own, b.files, []⟩).2.own) :
    (ask call act b).1 = (ask call act' b').1 ∧
      Bench.Alike { l with own, own_refl } (ask call act b).2 (ask call act' b').2 := by
  obtain ⟨own', files', desk', journal'⟩ := b'
  obtain rfl : b.files = files' := h.files
  have hsame : (ask call act b).1 = (ask call act' ⟨own', b.files, desk', journal'⟩).1 := hanswer
  refine ⟨hsame, hown, hfiles, ?_, ?_⟩
  · rw [ask_engine, ask_engine]
    exact h.engine
  · obtain ⟨made, hmade, hmade'⟩ := h.journal
    rw [ask_journal, ask_journal, hmade, hmade', hsame, l.congruence.errors h.engine]
    exact ⟨made ++ [_], List.append_assoc _ _ _, List.append_assoc _ _ _⟩

/-- **One call of a collaborator that cannot report.** -/
theorem alike_ask [Answer α] (call : Call) {act : Act σ α} (hact : act.Alike l.own act) :
    Alike l (ask call act) := by
  intro b b' h
  obtain ⟨hanswer, hfiles, hown⟩ := hact b.own b'.own b.files h.own
  exact alike_ask_of call l.own_refl h hanswer hfiles hown

/-- **One call of a collaborator that can report.**  It may be shown different engines. -/
theorem alike_consult [Answer α] (call : Call) {act : Engine → Act σ (α × List Report)}
    (hact : ∀ e e', l.engine e e' → (act e).Alike l.own (act e')) :
    Alike l (consult call act) := by
  intro b b' h
  obtain ⟨hanswer, hfiles, hown⟩ := hact _ _ h.engine b.own b'.own b.files h.own
  obtain ⟨hasked, hbench⟩ := alike_ask_of call l.own_refl h hanswer hfiles hown
  have hfirst := congrArg Prod.fst hasked
  refine ⟨hfirst, hbench.own, hbench.files, ?_, hbench.journal⟩
  rw [consult_engine, consult_engine, ← h.files, ← hanswer]
  exact l.congruence.submitAll h.engine _

end Job

/-! ## Collaborators -/

/-- **Collaborators that do not tell two runs apart.** -/
structure Collaborators.Alike (l : Likeness σ) (c : Collaborators σ) : Prop where
  tokens : ∀ path text, Act.Alike l.own (c.frontend.tokens path text) (c.frontend.tokens path text)
  parse : ∀ request tree e e', l.engine e e' →
    Act.Alike l.own (c.frontend.parse request tree e) (c.frontend.parse request tree e')
  systemDirectory : Act.Alike l.own c.loader.systemDirectory c.loader.systemDirectory
  loadFrom : ∀ path, Act.Alike l.own (c.loader.loadFrom path) (c.loader.loadFrom path)
  loadByName : ∀ name, Act.Alike l.own (c.loader.loadByName name) (c.loader.loadByName name)
  probeModule : ∀ path, Act.Alike l.own (c.loader.probeModule path) (c.loader.probeModule path)
  /-- The state that comes in is of no matter to an output that can be opened. -/
  init : ∀ path debug o o' files, l.own o o' →
    (c.output.init path debug ⟨o, files, []⟩).1 = (c.output.init path debug ⟨o', files, []⟩).1 ∧
      (c.output.init path debug ⟨o, files, []⟩).2.files =
        (c.output.init path debug ⟨o', files, []⟩).2.files ∧
      match (c.output.init path debug ⟨o, files, []⟩).1 with
      | .ok () => (c.output.init path debug ⟨o, files, []⟩).2.own =
          (c.output.init path debug ⟨o', files, []⟩).2.own
      | .error _ => l.own (c.output.init path debug ⟨o, files, []⟩).2.own
          (c.output.init path debug ⟨o', files, []⟩).2.own
  resolveCoreTypes : ∀ root e e', l.engine e e' →
    c.types.resolveCoreTypes root e = c.types.resolveCoreTypes root e'
  resolveTree : ∀ tree e e', l.engine e e' → c.types.resolveTree tree e = c.types.resolveTree tree e'
  populate : ∀ bootstrap tree e e', l.engine e e' →
    c.types.populate bootstrap tree e = c.types.populate bootstrap tree e'
  defineTypes : ∀ tree e e', l.engine e e' → c.types.defineTypes tree e = c.types.defineTypes tree e'
  verifyUsing : ∀ tree e e', l.engine e e' → c.types.verifyUsing tree e = c.types.verifyUsing tree e'
  emit : ∀ tree context e e', l.engine e e' →
    c.codegen.emit tree context e = c.codegen.emit tree context e'
  resolveAttributes : ∀ tree e e', l.engine e e' →
    c.output.resolveAttributes tree e = c.output.resolveAttributes tree e'
  verifyCompliance : ∀ modules tree e e', l.engine e e' →
    c.compliance.verify modules tree e = c.compliance.verify modules tree e'
  exportDocs : ∀ path tree e e', l.engine e e' →
    c.docs.export_ path tree e = c.docs.export_ path tree e'

/-! ## Stages -/

theorem Stage.inStep_job {j : Job σ α} (hj : j.Alike l) :
    InStep (Session.Alike l) (job j) (job j) := by
  intro s s' h
  obtain ⟨hanswer, hbench⟩ := hj s.bench s'.bench h.bench
  refine .inl ⟨(j s.bench).1, { s with bench := (j s.bench).2 },
    { s' with bench := (j s'.bench).2 }, rfl, ?_, { h with bench := hbench }⟩
  rw [hanswer]
  rfl

end BatchCompiler

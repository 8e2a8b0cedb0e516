import BatchCompiler.Proofs.Pipeline.AlikeRuns

/-!
# Sessions that are used again

The collaborators outlive a reset: whatever a run that was broken off has left with them is still there.
A run that is made behind a reset is nevertheless like the first run of a fresh session with fresh
collaborators, for opening the output settles their states, and nothing that is called before looks at
them.  Without a reset, a session that has been run is spent.

## Main definitions

* `Session.Action`, `Session.after` — what is done with a session, one action after another
* `Likeness.forgetting` — any difference between the collaborators' states is left aside

## Main statements

* `Session.finished_run` — a session that has been run is spent, whatever the run came to
* `Session.after_runs` — a spent session stays as it is until it is reset
* `Session.alike_reset` — a reset leaves nothing but the collaborators' states and the files
* `Session.history_erased` — what a run comes to, behind any history
-/

namespace BatchCompiler

variable {σ : Type}

/-- **Any difference between the collaborators' states is left aside**, and the calls that were made
before. -/
def Likeness.forgetting (σ : Type) (journal : List JournalEntry) : Likeness σ where
  own _ _ := True
  engine := Eq
  before := (journal, [])
  own_refl _ := trivial
  congruence := Engine.congruence_eq

namespace Session

/-- **What is done with a session.** -/
inductive Action where
  | run (last : Phase)
  | reset (config : Config)
deriving DecidableEq

/-- One action.  What a run comes to is not asked here. -/
def act (c : Collaborators σ) (s : Session σ) : Action → Session σ
  | .run last => (s.run c last).2
  | .reset config => s.reset config

/-- **A session after some actions**, the first of them first. -/
def after (c : Collaborators σ) (s : Session σ) (history : List Action) : Session σ :=
  history.foldl (act c) s

variable {c : Collaborators σ} {s : Session σ}

theorem after_append (c : Collaborators σ) (s : Session σ) (history more : List Action) :
    s.after c (history ++ more) = (s.after c history).after c more := List.foldl_append

/-! ## Spent sessions -/

theorem run_of_finished (h : s.finished = true) (c : Collaborators σ) (last : Phase) :
    s.run c last = (.error (.internal "the driver was run twice without a reset"), s) := by
  unfold run
  rw [if_pos h]

/-- **A session that has been run is spent**, whatever the run came to. -/
theorem finished_run (c : Collaborators σ) (s : Session σ) (last : Phase) :
    (s.run c last).2.finished = true := by
  cases hfinished : s.finished with
  | true =>
      rw [run_of_finished hfinished]
      exact hfinished
  | false =>
      -- The run is compared with itself: the comparison keeps the mark that a run has been made.
      have hsame := c.alike_same (s.bench.journal, s.bench.journal)
      have hbench : s.bench.Alike (.same σ (s.bench.journal, s.bench.journal)) s.bench :=
        ⟨rfl, rfl, rfl, [], (List.append_nil _).symm, (List.append_nil _).symm⟩
      have halike : Session.Alike (.same σ (s.bench.journal, s.bench.journal))
          { s with finished := true } { s with finished := true } :=
        ⟨hbench, rfl, rfl, rfl, rfl, rfl, rfl, rfl, rfl⟩
      exact (Alike.run hsame last hfinished hfinished halike).2.finished.1

/-- **A spent session stays as it is** until it is reset. -/
theorem after_runs (h : s.finished = true) (c : Collaborators σ) (repeats : List Phase) :
    s.after c (repeats.map .run) = s := by
  induction repeats with
  | nil => rfl
  | cons last rest ih =>
      show ((s.run c last).2).after c (rest.map .run) = s
      rw [run_of_finished h]
      exact ih

/-! ## Reset sessions -/

/-- Alike sessions are the same away from their benches. -/
theorem Alike.eq_with_bench {l : Likeness σ} {s s' : Session σ} (h : s.Alike l s') :
    s = { s' with bench := s.bench } := by
  obtain ⟨config, bench, resolver, tree, phase, output, entryPoint, finished⟩ := s
  obtain ⟨-, hconfig, hresolver, htree, hphase, houtput, hentryPoint, hfinished, hfinished'⟩ := h
  dsimp only at *
  rw [hconfig, hresolver, htree, hphase, houtput, hentryPoint, hfinished, hfinished']

/-- **A reset leaves nothing but the collaborators' states and the files** of what was before. -/
theorem alike_reset (s : Session σ) (config : Config) (own : σ) :
    Session.Alike (.forgetting σ s.bench.journal) { s.reset config with finished := true }
      { start config { own, files := s.bench.files } with finished := true } :=
  ⟨⟨trivial, rfl, rfl, [], (List.append_nil _).symm, rfl⟩, rfl, rfl, rfl, rfl, rfl, rfl, rfl, rfl⟩

/-- **A reset erases the history.**  Let anything have been done with a session over the host's
collaborators.  Behind a reset, a run comes to the same result as the first run of a fresh session with
the same configuration, over fresh collaborators and on the files as they are; it makes the same calls
and leaves the same engine, the same files and the same session, tree and references included.  Behind
a run with no reset since, a run is refused, and nothing is called and nothing changes. -/
theorem history_erased (systemDirectory : Path) (toolkit : Text.Toolkit)
    (s : Session Host.Manifest) (history : List Action) (config : Config) (last : Phase) :
    let c := Host.collaborators systemDirectory toolkit
    let used := s.after c (history ++ [.reset config])
    let fresh := start config { own := {}, files := used.bench.files }
    (used.run c last).1 = (fresh.run c last).1 ∧
      (used.run c last).2 = { (fresh.run c last).2 with bench := (used.run c last).2.bench } ∧
      (used.run c last).2.engine = (fresh.run c last).2.engine ∧
      (used.run c last).2.bench.files = (fresh.run c last).2.bench.files ∧
      (used.run c last).2.bench.journal =
        used.bench.journal ++ (fresh.run c last).2.bench.journal ∧
      ∀ (before : Phase) (repeats : List Phase),
        let spent := s.after c (history ++ .run before :: repeats.map .run)
        spent = s.after c (history ++ [.run before]) ∧
          spent.run c last =
            (.error (.internal "the driver was run twice without a reset"), spent) := by
  intro c used fresh
  have hused : used = (s.after c history).reset config := after_append c s history _
  have halike := alike_reset (s.after c history) config ({} : Host.Manifest)
  have hc := Host.alike_collaborators (.forgetting _ (s.after c history).bench.journal)
    systemDirectory toolkit
  obtain ⟨hresult, hrun⟩ := Alike.run hc last rfl rfl halike
  have hfiles : used.bench.files = (s.after c history).bench.files := by rw [hused]; rfl
  have hjournal : used.bench.journal = (s.after c history).bench.journal := by rw [hused]; rfl
  have hfresh : fresh = start config { own := {}, files := (s.after c history).bench.files } := by
    rw [← hfiles]
  rw [← hused, ← hfresh] at hresult hrun
  -- The calls of the history stand before the reset session's own; the fresh session has none.
  obtain ⟨made, hmade, hmade'⟩ := hrun.bench.journal
  refine ⟨hresult, hrun.eq_with_bench, hrun.bench.engine, hrun.bench.files, ?_, ?_⟩
  · rw [hmade, hmade', hjournal]
    rfl
  · intro before repeats spent
    have hspent : spent = s.after c (history ++ [.run before]) := by
      have hfinished := finished_run c (s.after c history) before
      show s.after c (history ++ .run before :: repeats.map .run) = _
      rw [after_append, after_append]
      exact after_runs hfinished c repeats
    refine ⟨hspent, run_of_finished ?_ c last⟩
    rw [hspent, after_append]
    exact finished_run c _ before

end Session

end BatchCompiler

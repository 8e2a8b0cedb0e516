import BatchCompiler.Proofs.Pipeline.Course

/-!
# The order of a run

Whatever the collaborators do, a run comes to its stations in one order, and to some of them only
while no error is counted.

## Main statements

* `Session.run_inOrder` — order and conditions of the calls of a run
-/

namespace BatchCompiler

variable {σ : Type}

namespace JournalEntry.Precedes

variable {e e' : JournalEntry}

/-- Ahead of a call of the frontend there are calls of the frontend only. -/
theorem role_eq_frontend (h : e.Precedes e') (hrole : e'.call.role = .frontend) :
    e.call.role = .frontend := by
  rw [Call.role_eq_frontend_iff] at hrole ⊢
  exact Station.eq_sources_of_rank_le (hrole ▸ h.rank_le)

/-- Ahead of a call of the loader there are calls of the frontend and the loader only. -/
theorem role_eq_frontend_or_loader (h : e.Precedes e') (hrole : e'.call.role = .loader) :
    e.call.role = .frontend ∨ e.call.role = .loader := by
  rw [Call.role_eq_loader_iff] at hrole
  rw [Call.role_eq_frontend_iff, Call.role_eq_loader_iff]
  exact Station.eq_sources_or_references_of_rank_le (hrole ▸ h.rank_le)

end JournalEntry.Precedes

/-- **The calls of a run are in order, whatever the collaborators do.**  Every milestone is passed once
at most and in the order of the milestones; the calls of the frontend come first, then those of the
loader, then the others.  A call that needs it is made while no error is counted; and as no error is
taken back, an error that was counted before the run, or before some call of it, keeps the output from
being saved from then on. -/
theorem Session.run_inOrder (c : Collaborators σ) (last : Phase) (s : Session σ) :
    ∃ made, (s.run c last).2.bench.journal = s.bench.journal ++ made ∧
      (passed made).Sublist Station.milestones ∧
      made.Pairwise (fun e e' => (e'.call.role = .frontend → e.call.role = .frontend) ∧
        (e'.call.role = .loader → e.call.role = .frontend ∨ e.call.role = .loader)) ∧
      (∀ e ∈ made, e.station.needsNoError = true → e.errors = 0) ∧
      (∀ e ∈ made, s.engine.errors ≤ e.errors ∧ e.errors ≤ (s.run c last).2.engine.errors) ∧
      made.Pairwise (fun e e' => e.errors ≤ e'.errors) ∧
      (0 < s.engine.errors → ∀ e ∈ made, e.station ≠ .saving) ∧
      made.Pairwise (fun e e' => 0 < e.errors → e'.station ≠ .saving) := by
  obtain ⟨made, h⟩ := run_advances c last s
  have hunsaved : ∀ e ∈ made, 0 < e.errors → e.station ≠ .saving := by
    intro e mem herrors hsaving
    exact absurd (h.gated e mem (by rw [hsaving]; rfl)) herrors.ne'
  refine ⟨made, h.journal, milestones_of_pairwise_precedes h.ordered, ?_, h.gated, h.counts, ?_, ?_,
    ?_⟩
  · exact h.ordered.imp fun hprecedes =>
      ⟨hprecedes.role_eq_frontend, hprecedes.role_eq_frontend_or_loader⟩
  · exact h.ordered.imp fun hprecedes => hprecedes.errors
  · intro herrors e mem
    exact hunsaved e mem (Nat.lt_of_lt_of_le herrors (h.counts e mem).1)
  · refine h.ordered.imp_of_mem fun {e e'} _ mem hprecedes herrors => ?_
    exact hunsaved e' mem (Nat.lt_of_lt_of_le herrors hprecedes.errors)

end BatchCompiler

import BatchCompiler.Host.Collaborators
import BatchCompiler.Proofs.Pipeline.Course

/-!
# Runs side by side

Alike sessions run alike: they come to the same result, by the same calls, and are alike again, since the
course of a run is made of operations that go on alike.

## Main statements

* `Session.Alike.run` — alike sessions run alike
* `Collaborators.alike_same`, `Host.alike_collaborators` — what the collaborators must not tell apart
-/

namespace BatchCompiler

variable {σ : Type} {l : Likeness σ} {c : Collaborators σ}

/-- **Alike sessions run alike**, and have then been run. -/
theorem Session.Alike.run (hc : c.Alike l) (last : Phase) {s s' : Session σ}
    (hready : s.finished = false) (hready' : s'.finished = false)
    (h : Session.Alike l { s with finished := true } { s' with finished := true }) :
    (s.run c last).1 = (s'.run c last).1 ∧ (s.run c last).2.Alike l (s'.run c last).2 := by
  have hcourse := (@Stage.leads_course σ c s.terms (· = s.setup) last s.config).does.alike hc
    { s with finished := true } { s' with finished := true }
    ⟨⟨[], Session.underWay_start _, Stage.settled_start _⟩, h⟩
  rw [Session.run_of_course hready rfl, Session.run_of_course hready' h.config.symm]
  rcases hcourse with ⟨_, t, t', hrun, hrun', halike⟩ | ⟨stop, t, t', hrun, hrun', halike⟩
  · rw [hrun, hrun']
    exact ⟨congrArg Except.ok halike.of_at.outcome, halike.of_at⟩
  · rw [hrun, hrun']
    exact ⟨rfl, halike⟩

/-- **Nothing tells a run from itself.** -/
theorem Collaborators.alike_same (c : Collaborators σ)
    (before : List JournalEntry × List JournalEntry) : c.Alike (.same σ before) where
  tokens _ _ := Act.alike_eq _
  parse _ _ := by
    rintro e _ rfl
    exact Act.alike_eq _
  systemDirectory := Act.alike_eq _
  loadFrom _ := Act.alike_eq _
  loadByName _ := Act.alike_eq _
  probeModule _ := Act.alike_eq _
  init path debug := by
    rintro o _ files rfl
    refine ⟨rfl, rfl, ?_⟩
    split
    · rfl
    · rfl
  resolveCoreTypes _ _ _ he := by rw [he]
  resolveTree _ _ _ he := by rw [he]
  populate _ _ _ _ he := by rw [he]
  defineTypes _ _ _ he := by rw [he]
  verifyUsing _ _ _ he := by rw [he]
  emit _ _ _ _ he := by rw [he]
  resolveAttributes _ _ _ he := by rw [he]
  verifyCompliance _ _ _ _ he := by rw [he]
  exportDocs _ _ _ _ he := by rw [he]

/-! ## The host -/

/-- **The host's collaborators do not tell runs apart**: a manifest is looked at by nothing before it is
opened, and opening one leaves nothing of the manifest before. -/
theorem Host.alike_collaborators (l : Likeness Host.Manifest) (systemDirectory : Path)
    (toolkit : Text.Toolkit) :
    (Host.collaborators systemDirectory toolkit).Alike l where
  tokens _ _ _ _ _ ho := ⟨rfl, rfl, ho⟩
  parse _ _ _ _ _ _ _ _ ho := ⟨rfl, rfl, ho⟩
  systemDirectory _ _ _ ho := ⟨rfl, rfl, ho⟩
  loadFrom _ _ _ _ ho := ⟨rfl, rfl, ho⟩
  loadByName _ _ _ _ ho := ⟨rfl, rfl, ho⟩
  probeModule _ _ _ _ ho := ⟨rfl, rfl, ho⟩
  init path debug o o' files ho := by
    dsimp only [Host.collaborators, Host.manifestWriter]
    unfold Host.initManifest
    cases Host.requiredDirectory? path with
    | none => exact ⟨rfl, rfl, rfl⟩
    | some directory =>
        cases hdirectory : files.isDirectory directory with
        | true =>
            simp only [Act.files, bind, StateT.bind, hdirectory]
            exact ⟨rfl, rfl, rfl⟩
        | false =>
            simp only [Act.files, bind, StateT.bind, hdirectory]
            exact ⟨rfl, rfl, ho⟩
  resolveCoreTypes _ _ _ _ := rfl
  resolveTree _ _ _ _ := rfl
  populate _ _ _ _ _ := rfl
  defineTypes _ _ _ _ := rfl
  verifyUsing _ _ _ _ := rfl
  emit _ _ _ _ _ := rfl
  resolveAttributes _ _ _ _ := rfl
  verifyCompliance _ _ _ _ _ := rfl
  exportDocs _ _ _ _ _ := rfl

end BatchCompiler

import Mathlib
import BatchCompiler.Host.Collaborators
import BatchCompiler.Proofs.Pipeline.Course

/-!
# Success and failure of a run

A run that goes on behind parsing succeeds exactly when the backend has saved the output, and then no
error is counted.  With the host collaborators, which refuse for reported reasons only, success and a
count of zero are the same; so every failure is on record.

## Main statements

* `Host.candid_collaborators` — the host refuses for reported reasons only
* `Session.run_ok_iff` — success and saving, success and the count of errors
-/

namespace BatchCompiler

variable {σ : Type}

theorem Stop.isOfErrors_iff {stop : Stop} :
    stop.isOfErrors = true ↔ (∃ phase, stop = .halted phase) ∨ ∃ phase, stop = .fatal phase := by
  cases stop <;> simp [isOfErrors]

/-! ## The host -/

/-- **The host refuses for reported reasons only.** -/
theorem Host.candid_collaborators (systemDirectory : Path) (toolkit : Text.Toolkit) :
    (Host.collaborators systemDirectory toolkit).Candid where
  coreTypes root engine site h := by cases h
  documentation path tree engine site h := by
    change (xmlExporter.export_ path tree engine site).1.1 = false at h
    show ∃ r ∈ (xmlExporter.export_ path tree engine site).1.2, r.diagnostic.severity = .error
    unfold xmlExporter Act.write at h ⊢
    simp only [bind, StateT.bind] at h ⊢
    cases hwrite : site.files.write path (Text.Utf8.encode (documentation (documentedNames tree)))
    with
    | ok files =>
        simp only [hwrite] at h
        cases h
    | error fault => exact ⟨_, List.mem_singleton_self _, rfl⟩
  moduleOnly site := rfl

namespace Session

open Stage

/-! ## What a run adds to the journal -/

theorem saves_of_stretch {s s' : Session σ} {lo hi : Station} {made : List JournalEntry}
    (h : Stretch lo hi s.bench s'.bench made) :
    s'.setup.saves = s.setup.saves ++ made.filterMap JournalEntry.saving? := by
  show List.filterMap _ s'.bench.journal = _
  rw [h.journal, List.filterMap_append]
  rfl

theorem opened_of_stretch {s s' : Session σ} {lo hi : Station} {made : List JournalEntry}
    (h : Stretch lo hi s.bench s'.bench made) :
    s'.setup.opened = s.setup.opened ++ made.filterMap JournalEntry.opening? := by
  show List.filterMap _ s'.bench.journal = _
  rw [h.journal, List.filterMap_append]
  rfl

/-- **Success is saving**, in a run to the end that does not stop after parsing. -/
theorem exists_made_of_run_save {s : Session σ} (c : Collaborators σ) (hready : s.finished = false)
    (hgoes : s.config.stopsAfterParsing = false) :
    ∃ made, (s.run c .save).2.bench.journal = s.bench.journal ++ made ∧
      ((∃ outcome, (s.run c .save).1 = .ok outcome) ↔
        ∃ e ∈ made, (∃ path debug, e.call = .save path debug) ∧ e.granted = true) ∧
      ∀ outcome, (s.run c .save).1 = .ok outcome →
        (s.run c .save).2.engine.errors = 0 ∧ outcome.lastPhase = .save ∧
          ∃ path, outcome.output = some path ∧
            made.filterMap JournalEntry.opening? = [path] ∧
            made.filterMap JournalEntry.saving? = [(path, true)] := by
  obtain ⟨made, hmade, hends⟩ := run_covers hready c .save
  have hopened := opened_of_stretch hmade
  have hsaves := saves_of_stretch hmade
  refine ⟨made, hmade.journal, ?_⟩
  rcases hrun : s.run c .save with ⟨stop | outcome, s'⟩
  · rw [hrun] at hsaves hends
    refine ⟨⟨nofun, ?_⟩, nofun⟩
    rintro ⟨e, mem, ⟨path, debug, hcall⟩, hgranted⟩
    -- A path that was saved would be among those saved, which have stayed the same.
    have hsaved : (path, true) ∈ (made.filterMap JournalEntry.saving?).filter (·.2) := by
      rw [List.mem_filter, List.mem_filterMap]
      exact ⟨⟨e, mem, JournalEntry.saving?_eq_some_iff.mpr ⟨⟨debug, hcall⟩, hgranted⟩⟩, rfl⟩
    obtain ⟨_, rfl, hsame⟩ := hends.saved
    change s'.setup.saved = s.setup.saved at hsame
    unfold Setup.saved at hsame
    rw [hsaves, List.filter_append, List.map_append, List.append_right_eq_self,
      List.map_eq_nil_iff] at hsame
    rw [hsame] at hsaved
    cases hsaved
  · rw [hrun] at hopened hsaves hends
    obtain ⟨rfl, hdone⟩ := hends
    have hsaved := hdone.saved hgoes
    obtain ⟨_, path, ⟨_, path', rfl, rfl⟩, hpath, hsetup⟩ := hsaved.setup
    obtain rfl : path' = path := Option.some.inj hpath
    change s'.setup = savedAs (openedAs s.setup path') path' at hsetup
    rw [hsetup] at hopened hsaves
    have hopening : made.filterMap JournalEntry.opening? = [path'] :=
      (List.append_cancel_left hopened).symm
    have hsaving : made.filterMap JournalEntry.saving? = [(path', true)] :=
      (List.append_cancel_left hsaves).symm
    have hcalled : ∃ e ∈ made, (∃ path debug, e.call = .save path debug) ∧ e.granted = true := by
      have mem : (path', true) ∈ made.filterMap JournalEntry.saving? := by
        rw [hsaving]
        exact List.mem_singleton_self _
      obtain ⟨e, mem, hsaved⟩ := List.mem_filterMap.mp mem
      obtain ⟨hcall, hgranted⟩ := JournalEntry.saving?_eq_some_iff.mp hsaved
      exact ⟨e, mem, ⟨path', hcall⟩, hgranted⟩
    refine ⟨⟨fun _ => hcalled, fun _ => ⟨_, rfl⟩⟩, ?_⟩
    rintro outcome ⟨⟩
    exact ⟨hsaved.watch.1, hsaved.phase, path', congrArg Setup.output hsetup, hopening, hsaving⟩

/-- **With candid collaborators success is a count of zero**, and every failure is on record. -/
theorem run_ok_iff_errors_eq_zero {c : Collaborators σ} (hcandid : c.Candid) {s : Session σ}
    (hready : s.finished = false) (last : Phase) :
    ((∃ outcome, (s.run c last).1 = .ok outcome) ↔ (s.run c last).2.engine.errors = 0) ∧
      ∀ stop, (s.run c last).1 = .error stop → stop.isOfErrors = true ∧
        (s.engine.Reachable →
          ∃ d ∈ (s.run c last).2.engine.diagnostics, d.severity = .error) := by
  obtain ⟨made, hmade, hends⟩ := run_covers hready c last
  obtain ⟨rs, hengine⟩ := hmade.engine
  rcases hrun : s.run c last with ⟨stop | outcome, s'⟩
  · rw [hrun] at hends hengine
    obtain ⟨herrors, hstop⟩ := hends.excused hcandid
    refine ⟨⟨by rintro ⟨_, ⟨⟩⟩, fun hzero => absurd hzero herrors.ne'⟩, ?_⟩
    rintro stop' ⟨⟩
    refine ⟨hstop, fun hreachable => ?_⟩
    have hcounted : s'.engine.Counted := by
      rw [Session.engine, hengine]
      exact (hreachable.submitAll rs).counted
    exact hcounted.exists_error herrors
  · rw [hrun] at hends
    exact ⟨⟨fun _ => hends.2.errors_eq_zero, fun _ => ⟨outcome, rfl⟩⟩, by rintro stop ⟨⟩⟩

/-- **Success is saving, and with the host it is a count of zero.**

With any collaborators, a run to the end that does not stop after parsing succeeds exactly when the
backend was asked to save and did.  Then no error is counted, the last phase is the saving, and the
output is the one path that was opened and the one that was saved.

With the host collaborators, a run up to any phase succeeds exactly when no error is counted at its end.
It is never ended by a misuse of the session or by a lack of support; and when it is ended, an error is
on record. -/
theorem run_ok_iff :
    (∀ {σ : Type} (c : Collaborators σ) (s : Session σ), s.finished = false →
      s.config.stopsAfterParsing = false →
      ∃ made, (s.run c .save).2.bench.journal = s.bench.journal ++ made ∧
        ((∃ outcome, (s.run c .save).1 = .ok outcome) ↔
          ∃ e ∈ made, (∃ path debug, e.call = .save path debug) ∧ e.granted = true) ∧
        ∀ outcome, (s.run c .save).1 = .ok outcome →
          (s.run c .save).2.engine.errors = 0 ∧ outcome.lastPhase = .save ∧
            ∃ path, outcome.output = some path ∧
              made.filterMap JournalEntry.opening? = [path] ∧
              made.filterMap JournalEntry.saving? = [(path, true)]) ∧
    ∀ (systemDirectory : Path) (toolkit : Text.Toolkit) (s : Session Host.Manifest) (last : Phase),
      s.finished = false →
      ((∃ outcome, (s.run (Host.collaborators systemDirectory toolkit) last).1 = .ok outcome) ↔
        (s.run (Host.collaborators systemDirectory toolkit) last).2.engine.errors = 0) ∧
      ∀ stop, (s.run (Host.collaborators systemDirectory toolkit) last).1 = .error stop →
        ((∃ phase, stop = .halted phase) ∨ ∃ phase, stop = .fatal phase) ∧
          (s.engine.Reachable →
            ∃ d ∈ (s.run (Host.collaborators systemDirectory toolkit) last).2.engine.diagnostics,
              d.severity = .error) := by
  refine ⟨fun c s => exists_made_of_run_save c, fun systemDirectory toolkit s last hready => ?_⟩
  obtain ⟨hiff, hfailure⟩ :=
    run_ok_iff_errors_eq_zero (Host.candid_collaborators systemDirectory toolkit) hready last
  refine ⟨hiff, fun stop hstop => ⟨?_, (hfailure stop hstop).2⟩⟩
  exact Stop.isOfErrors_iff.mp (hfailure stop hstop).1

/-- A session for a program without sources. -/
def sourceless (target : Target) : Session Host.Manifest :=
  start { target, output := some ⟨"a"⟩, standardLibrary := false, defaultReferences := false }
    { own := {}, files := ⟨[], {}⟩ }

/-- The host with a backend that says it has saved and writes nothing. -/
def unwritten : Collaborators Host.Manifest :=
  { Host.collaborators ⟨""⟩ with
    output := { Host.manifestWriter with save := fun _ _ => return .ok () } }

/-- Without sources a library is saved, and a program is not: it has no entry point. -/
theorem run_ok_iff_sourceless :
    (∃ e ∈ ((sourceless .library).run unwritten .save).2.bench.journal,
      (∃ path debug, e.call = .save path debug) ∧ e.granted = true) ∧
    (∀ outcome, ((sourceless .exe).run (Host.collaborators ⟨""⟩) .save).1 ≠ .ok outcome) ∧
    ∃ d ∈ ((sourceless .exe).run (Host.collaborators ⟨""⟩) .save).2.engine.diagnostics,
      d.severity = .error := by
  have herrors : ((sourceless .exe).run (Host.collaborators ⟨""⟩) .save).2.engine.errors = 1 := by
    cbv
  have hok : ((sourceless .library).run unwritten .save).1 = .ok ⟨.save, some ⟨"a"⟩, none⟩ := by cbv
  obtain ⟨made, hjournal, hsaved, -⟩ := run_ok_iff.1 unwritten (sourceless .library) rfl rfl
  obtain ⟨hiff, hfailure⟩ := run_ok_iff.2 ⟨""⟩ .bundled (sourceless .exe) .save rfl
  have hfails : ∀ outcome,
      ((sourceless .exe).run (Host.collaborators ⟨""⟩) .save).1 ≠ .ok outcome := by
    intro outcome h
    rw [hiff.mp ⟨outcome, h⟩] at herrors
    cases herrors
  refine ⟨?_, hfails, ?_⟩
  · rw [hjournal]
    exact hsaved.mp ⟨_, hok⟩
  · cases hrun : ((sourceless .exe).run (Host.collaborators ⟨""⟩) .save).1 with
    | ok outcome => exact absurd hrun (hfails outcome)
    | error stop => exact (hfailure stop hrun).2 (.empty {})

end Session

end BatchCompiler

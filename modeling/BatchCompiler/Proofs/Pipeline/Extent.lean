import Mathlib
import BatchCompiler.Proofs.Pipeline.Success

/-!
# How far a run goes

A run that is told to end with a phase ends there only if that phase closes its group: the groups are
parsing alone, the phases up to the attributes, and those from emitting code.  A phase inside a group
makes the run go on to the end of the group.

## Main definitions

* `Phase.groupEnd` — the last phase of the group
* `Station.phase` — the phase whose work a station is
* `Stage.phasesOf`, `Session.phases` — the phases that a run goes through

## Main statements

* `Stage.Leads.phasesOf_eq` — legs that come to their end have gone through their phases
* `Session.run_extent` — how far a run goes
-/

namespace BatchCompiler

variable {σ : Type}

/-- **The last phase of a phase's group.** -/
def Phase.groupEnd (p : Phase) : Phase :=
  if p = .parse then .parse
  else if p.rank < Phase.emit.rank then .assemblyAttributes
  else .save

/-- The station behind a phase's group. -/
def Phase.groupLimit (p : Phase) : Station :=
  if p = .parse then .references
  else if p.rank < Phase.emit.rank then .code
  else .finished

/-- The phases up to the end of a phase's group. -/
def Phase.throughGroup (p : Phase) : List Phase := Phase.all.take (p.groupEnd.rank + 1)

/-- **The phase whose work a station is.** -/
def Station.phase : Station → Phase
  | .sources => .parse
  | .references => .loadReferences
  | .opening | .moduleMark => .outputIdentity
  | .modules => .loadModules
  | .coreTypes => .coreTypes
  | .tree | .population | .typeDefinitions => .resolveTree
  | .documentation => .documentation
  | .usings => .verifyUsing
  | .attributes | .complianceMark | .compliance => .assemblyAttributes
  | .code => .emit
  | .closing => .closeTypes
  | .entryPoint => .entryPoint
  | .resources => .emitResources
  | .nativeResources => .nativeResources
  | .saving | .finished => .save

/-- What lies before the limit of a group is work of its phases, or of those before it. -/
theorem Station.phase_rank_le_groupEnd {st : Station} {last : Phase}
    (h : st.rank < last.groupLimit.rank) : st.phase.rank ≤ last.groupEnd.rank := by
  unfold Phase.groupLimit at h
  unfold Phase.groupEnd
  split
  · rename_i hlast
    rw [if_pos hlast] at h
    cases st <;> revert h <;> decide
  · rename_i hlast
    rw [if_neg hlast] at h
    split
    · rename_i hrank
      rw [if_pos hrank] at h
      cases st <;> revert h <;> decide
    · cases st <;> decide

/-- The phases up to one are among those up to the end of its group. -/
theorem Phase.mem_throughGroup {p last : Phase} (h : p.rank ≤ last.rank) :
    p ∈ last.throughGroup := by
  cases last <;> revert h <;> cases p <;> decide

namespace Stage

variable {c : Collaborators σ}

/-! ## The phases of a run -/

/-- The phases that legs end in, up to the one that ends the run. -/
def phasesOf : List (Leg σ) → Session σ → List Phase
  | [], _ => []
  | leg :: rest, s =>
      match perform leg.2 s with
      | (.ok _, s') => s'.phase :: phasesOf rest s'
      | (.error _, s') => [s'.phase]

/-- **Legs that come to their end have gone through their phases**, and the last of these is where the
session is. -/
theorem Leads.phasesOf_eq {g : Terms} {E : Stop → Condition} {lo hi : Station} {P Q : Condition}
    {legs : List (Leg σ)} (h : Leads c g E lo hi P legs Q) {s s' : Session σ} (hs : s.Stands g P)
    (hrun : perform (inTurn legs) s = (.ok (), s')) :
    phasesOf legs s = legs.map Prod.fst ∧ s'.phase = (legs.map Prod.fst).getLastD s.phase := by
  induction h generalizing s with
  | nil _ =>
      cases hrun
      exact ⟨rfl, rfl⟩
  | cons hm hphase hgo _ _ _ ih =>
      obtain ⟨⟨⟩, s₁, hfirst, hrest⟩ := perform_bind_eq_ok_iff.mp hrun
      obtain ⟨late, hunderWay, hends⟩ := hm.covers.stands hs hfirst
      obtain ⟨hphases, hlast⟩ := ih ⟨late, hunderWay, hgo _ hends⟩ hrest
      have hphase : s₁.phase = _ := hphase _ hends
      unfold phasesOf
      rw [hfirst, List.map_cons, List.getLastD_cons, ← hphase]
      exact ⟨congrArg (s₁.phase :: ·) hphases, hlast⟩

/-- The phases of a course that does not end after parsing. -/
theorem course_phases (last : Phase) {config : Config} (hgoes : config.stopsAfterParsing = false) :
    (course c last config).map Prod.fst = last.throughGroup := by
  unfold course
  rw [hgoes]
  cases last <;> rfl

/-- A course ends ahead of the limit of its last phase's group. -/
theorem courseEnd_le_groupLimit (last : Phase) (config : Config) :
    (courseEnd last config).rank ≤ last.groupLimit.rank := by
  unfold courseEnd Phase.groupLimit
  split
  · exact le_rfl
  · split
    · split
      · decide
      · decide
    · exact le_rfl

end Stage

namespace Session

open Stage

/-- **The phases that a run goes through.** -/
def phases (c : Collaborators σ) (last : Phase) (s : Session σ) : List Phase :=
  phasesOf (course c last s.config) { s with finished := true }

/-- **How far a run goes**, if it does not end after parsing: to the end of its last phase's group.

Nobody is called whose work belongs behind that.  If the run comes to its end, it has gone through
every phase up to there, those up to its last one among them.  The phase it tells is the end of the
group, which is the last phase itself for parsing, the attributes and the saving only. -/
theorem run_extent (c : Collaborators σ) (last : Phase) (s : Session σ)
    (hready : s.finished = false) (hgoes : s.config.stopsAfterParsing = false) :
    ∃ made, (s.run c last).2.bench.journal = s.bench.journal ++ made ∧
      (∀ e ∈ made, e.station.phase.rank ≤ last.groupEnd.rank) ∧
      ∀ outcome, (s.run c last).1 = .ok outcome →
        s.phases c last = last.throughGroup ∧
          (∀ p : Phase, p.rank ≤ last.rank → p ∈ s.phases c last) ∧
          outcome.lastPhase = last.groupEnd ∧
          (outcome.lastPhase = last ↔ last ∈ [Phase.parse, .assemblyAttributes, .save]) := by
  obtain ⟨made, hmade, -⟩ := run_covers hready c last
  have hlimit := courseEnd_le_groupLimit last s.config
  refine ⟨made, hmade.journal, fun e mem => Station.phase_rank_le_groupEnd
    (Nat.lt_of_lt_of_le (hmade.within e mem).2 hlimit), ?_⟩
  rintro outcome hok
  have hcourse := perform_toPhase c last { s with finished := true }
  rw [run_of_ready hready] at hok
  rcases hrun : perform (toPhase c last) { s with finished := true } with ⟨stop | _, s'⟩
  · rw [hrun] at hok
    cases hok
  · rw [hrun] at hok hcourse
    cases hok
    have hleads := @leads_course σ c s.terms (· = s.setup) last s.config
    obtain ⟨hphases, hlast⟩ := hleads.phasesOf_eq
      ⟨[], underWay_start { s with finished := true }, settled_start { s with finished := true }⟩
      hcourse.symm
    rw [course_phases last hgoes] at hphases hlast
    have hend : s'.phase = last.groupEnd := by
      rw [hlast]
      cases last <;> rfl
    refine ⟨hphases, fun p hle => ?_, hend, ?_⟩
    · show p ∈ phasesOf _ _
      rw [hphases]
      exact Phase.mem_throughGroup hle
    · show s'.phase = last ↔ _
      rw [hend]
      cases last <;> decide

/-- A library without sources that is to be built up to its default references. -/
theorem run_extent_sourceless :
    ((sourceless .library).run (Host.collaborators ⟨""⟩) .configureDefaults).1 =
        .ok ⟨.assemblyAttributes, some ⟨"a"⟩, none⟩ ∧
      (sourceless .library).phases (Host.collaborators ⟨""⟩) .configureDefaults =
        Phase.configureDefaults.throughGroup := by
  have hok : ((sourceless .library).run (Host.collaborators ⟨""⟩) .configureDefaults).1 =
      .ok ⟨.assemblyAttributes, some ⟨"a"⟩, none⟩ := by cbv
  obtain ⟨made, -, -, hends⟩ :=
    run_extent (Host.collaborators ⟨""⟩) .configureDefaults (sourceless .library) rfl rfl
  exact ⟨hok, (hends _ hok).1⟩

/-- **A run does not always end with its last phase**: told to end with the default references, it
tells the attributes.  **Nor does it call nobody of a later phase**: it opens the output on the way. -/
theorem not_lastPhase_of_run :
    (¬ ∀ (c : Collaborators Host.Manifest) (last : Phase) (s : Session Host.Manifest),
      s.finished = false → s.config.stopsAfterParsing = false →
        ∀ outcome, (s.run c last).1 = .ok outcome → outcome.lastPhase = last) ∧
    ¬ ∀ (c : Collaborators Host.Manifest) (last : Phase) (s : Session Host.Manifest),
      s.finished = false → s.config.stopsAfterParsing = false →
        ∀ outcome, (s.run c last).1 = .ok outcome →
          ∃ made, (s.run c last).2.bench.journal = s.bench.journal ++ made ∧
            ∀ e ∈ made, e.station.phase.rank ≤ last.rank := by
  have hok : ((sourceless .library).run (Host.collaborators ⟨""⟩) .configureDefaults).1 =
      .ok ⟨.assemblyAttributes, some ⟨"a"⟩, none⟩ := by cbv
  constructor
  · intro hlast
    cases hlast (Host.collaborators ⟨""⟩) .configureDefaults (sourceless .library) rfl rfl _ hok
  · intro hnobody
    have hopened : ((sourceless .library).run (Host.collaborators ⟨""⟩)
        .configureDefaults).2.bench.journal.any (·.station = .opening) := by cbv
    obtain ⟨made, hjournal, hmade⟩ :=
      hnobody (Host.collaborators ⟨""⟩) .configureDefaults (sourceless .library) rfl rfl _ hok
    rw [hjournal] at hopened
    obtain ⟨e, mem, hstation⟩ := List.any_eq_true.mp hopened
    have hle := hmade e mem
    rw [of_decide_eq_true hstation] at hle
    exact absurd hle (by decide)

end Session

end BatchCompiler

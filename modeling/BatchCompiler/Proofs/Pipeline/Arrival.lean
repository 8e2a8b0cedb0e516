import BatchCompiler.Proofs.Pipeline.Extent

/-!
# Coming to a phase

A run comes to a phase of its course in the session that the phases ahead have left.  What happens
from there on depends on that session alone.

## Main definitions

* `Session.ComesTo` — a run comes to a phase in a session
* `Session.Did` — the calls made and the reports submitted between two sessions
* `definitions` — the entry points defined by some calls

## Main statements

* `Session.ComesTo.clean` — a run comes to emitting code without an error
* `Session.ComesTo.perform_toPhase_eq` — what it does from there on
* `Session.ComesTo.exists_definitions` — the entry points that a run defines
-/

namespace BatchCompiler

variable {σ : Type}

/-! ## Definitions of an entry point -/

/-- The entry point that a call defines, with its subsystem. -/
def Call.definition? : Call → Option (EntryPoint × Subsystem)
  | .defineEntryPoint entry subsystem => some (entry, subsystem)
  | _ => none

/-- **The entry points defined** by some calls. -/
def definitions (made : List JournalEntry) : List (EntryPoint × Subsystem) :=
  (made.map JournalEntry.call).filterMap Call.definition?

theorem definitions_append (made more : List JournalEntry) :
    definitions (made ++ more) = definitions made ++ definitions more := by
  unfold definitions
  rw [List.map_append, List.filterMap_append]

/-- Away from its station no entry point is defined. -/
theorem definitions_eq_nil {made : List JournalEntry} (h : ∀ e ∈ made, e.station ≠ .entryPoint) :
    definitions made = [] := by
  refine List.filterMap_eq_nil_iff.mpr fun call mem => ?_
  obtain ⟨e, hmade, rfl⟩ := List.mem_map.mp mem
  unfold Call.definition?
  split
  · rename_i entry subsystem hcall
    exact absurd (congrArg Call.station hcall) (h e hmade)
  · rfl

theorem Stretch.definitions_eq_nil {lo hi : Station} {b b' : Bench σ} {made : List JournalEntry}
    (h : Stretch lo hi b b' made)
    (hapart : hi.rank ≤ Station.entryPoint.rank ∨ Station.entryPoint.rank < lo.rank) :
    definitions made = [] := by
  refine BatchCompiler.definitions_eq_nil fun e mem heq => ?_
  have hwithin := h.within e mem
  rw [heq] at hwithin
  omega

/-! ## The work between two sessions -/

/-- **What has been done** from one session to another: the calls made, and the reports
submitted. -/
structure Session.Did (calls : List Call) (rs : List Report) (s s' : Session σ) : Prop where
  journal : ∃ made, s'.bench.journal = s.bench.journal ++ made ∧ made.map JournalEntry.call = calls
  engine : s'.engine = s.engine.submitAll rs

namespace Session.Did

variable {calls more : List Call} {rs rs' : List Report} {s s' s'' : Session σ}

theorem of_eq (hjournal : s'.bench.journal = s.bench.journal) (hengine : s'.engine = s.engine) :
    Did [] [] s s' :=
  ⟨⟨[], by rw [hjournal, List.append_nil], rfl⟩, hengine⟩

theorem trans (h : Did calls rs s s') (h' : Did more rs' s' s'') :
    Did (calls ++ more) (rs ++ rs') s s'' := by
  obtain ⟨made, hjournal, hcalls⟩ := h.journal
  obtain ⟨made', hjournal', hcalls'⟩ := h'.journal
  refine ⟨⟨made ++ made', ?_, ?_⟩, ?_⟩
  · rw [hjournal', hjournal, List.append_assoc]
  · rw [List.map_append, hcalls, hcalls']
  · rw [h'.engine, h.engine, Engine.submitAll_append]

end Session.Did

namespace Stage

variable {c : Collaborators σ} {last phase : Phase} {config : Config} {s s' : Session σ}

/-! ## The legs from emitting code -/

/-- **A course on which code is emitted** has all the legs. -/
theorem course_of_emit (h : .emit ∈ (course c last config).map Prod.fst) :
    config.stopsAfterParsing = false ∧
      course c last config = aheadLegs c ++ (entryLegs c ++ savingLegs c) := by
  unfold course at h ⊢
  by_cases hlast : last = .parse
  · rw [if_pos hlast] at h
    simp at h
  rw [if_neg hlast] at h ⊢
  cases hstops : config.stopsAfterParsing with
  | true =>
      rw [hstops, if_pos rfl] at h
      simp at h
  | false =>
      rw [hstops, if_neg (by decide)] at h
      by_cases hrank : last.rank < Phase.emit.rank
      · rw [if_pos hrank] at h
        simp [frontLegs] at h
      · rw [if_neg (by decide), if_neg hrank]
        exact ⟨rfl, rfl⟩

/-- **The legs behind the entry point** call nobody whose work belongs ahead of them, once the
output is open. -/
theorem advances_savingLegs (houtput : s.output.isSome = true) :
    Advances .resources .finished s.bench (perform (inTurn (savingLegs c)) s).2.bench := by
  have hopen : ∀ su, su = s.setup → su.output.isSome = true := by
    rintro su rfl
    exact houtput
  obtain ⟨made, hmade, -⟩ := (@leads_savingLegs σ c s.terms (· = s.setup) _ saved_same
    hopen).does.covers s [] (Session.underWay_start s) (settled_start s)
  exact ⟨made, hmade⟩

end Stage

/-! ## Coming to a phase -/

namespace Session

open Stage

/-- **A run comes to a phase** in a session: the phase is on its course, and the legs ahead come to
their end there. -/
structure ComesTo (c : Collaborators σ) (last : Phase) (s : Session σ) (phase : Phase)
    (s₁ : Session σ) : Prop where
  ready : s.finished = false
  onCourse : phase ∈ (course c last s.config).map Prod.fst
  ahead : perform (inTurn ((course c last s.config).takeWhile (·.1 ≠ phase)))
    { s with finished := true } = (.ok (), s₁)

variable {c : Collaborators σ} {last : Phase} {s s₁ s₂ : Session σ}

namespace ComesTo

/-- **A run comes to emitting code** if it does all that is ahead of that. -/
theorem perform_aheadLegs (h : s.ComesTo c last .emit s₁) :
    perform (inTurn (aheadLegs c)) { s with finished := true } = (.ok (), s₁) := by
  have hahead := h.ahead
  rw [(course_of_emit h.onCourse).2] at hahead
  exact hahead

/-- **It comes to emitting resources** if it does then what is to be done for the entry point. -/
theorem emitResources (h : s.ComesTo c last .emit s₁)
    (hrun : perform (inTurn (entryLegs c)) s₁ = (.ok (), s₂)) :
    s.ComesTo c last .emitResources s₂ := by
  have hcourse := (course_of_emit h.onCourse).2
  have hlegs : (course c last s.config).takeWhile (·.1 ≠ .emitResources) =
      aheadLegs c ++ entryLegs c := by
    rw [hcourse]
    rfl
  refine ⟨h.ready, ?_, ?_⟩
  · rw [hcourse]
    simp [savingLegs]
  · rw [hlegs, inTurn_append, perform_bind, h.perform_aheadLegs]
    exact hrun

/-- **A run that comes to emitting code** has called nobody whose work belongs behind that, and no
error is counted. -/
theorem clean (h : s.ComesTo c last .emit s₁) :
    Advances .sources .code s.bench s₁.bench ∧ s₁.engine.errors = 0 := by
  obtain ⟨made, hmade, -, hends⟩ := (@leads_aheadLegs σ c s.terms (· = s.setup)).does.covers
    { s with finished := true } [] (underWay_start _) (settled_start _)
  rw [h.perform_aheadLegs] at hmade hends
  exact ⟨⟨made, hmade⟩, hends.watch.1⟩

/-- **What it does from there on** depends on the session it has come to. -/
theorem perform_toPhase_eq (h : s.ComesTo c last .emit s₁) :
    perform (toPhase c last) { s with finished := true } =
      perform (do inTurn (entryLegs c); inTurn (savingLegs c)) s₁ := by
  rw [perform_toPhase, (course_of_emit h.onCourse).2, inTurn_append, perform_bind,
    h.perform_aheadLegs]
  dsimp only
  rw [inTurn_append]

/-- A run that is ended over the entry point. -/
theorem run_of_error {stop : Stop} (h : s.ComesTo c last .emit s₁)
    (hrun : perform (inTurn (entryLegs c)) s₁ = (.error stop, s₂)) :
    s.run c last = (.error stop, s₂) := by
  rw [run_of_ready h.ready, h.perform_toPhase_eq, perform_bind, hrun]

/-- A run that goes on behind the entry point. -/
theorem run_snd_of_ok (h : s.ComesTo c last .emit s₁)
    (hrun : perform (inTurn (entryLegs c)) s₁ = (.ok (), s₂)) :
    (s.run c last).2 = (perform (inTurn (savingLegs c)) s₂).2 := by
  rw [run_snd_of_ready h.ready, h.perform_toPhase_eq, perform_bind, hrun]

/-- **The entry points that it defines** are those which are defined when it comes to that. -/
theorem exists_definitions {calls : List Call} {rs : List Report} {result : Except Stop Unit}
    (h : s.ComesTo c last .emit s₁) (hrun : perform (inTurn (entryLegs c)) s₁ = (result, s₂))
    (hdid : Did calls rs s₁ s₂) (hopen : result = .ok () → ∃ path, s₂.output = some path) :
    ∃ made, (s.run c last).2.bench.journal = s.bench.journal ++ made ∧
      definitions made = calls.filterMap Call.definition? := by
  obtain ⟨ahead, hahead⟩ := h.clean.1
  obtain ⟨made, hjournal, rfl⟩ := hdid.journal
  -- The calls ahead belong to other stations, and so do those behind.
  have hnone := hahead.definitions_eq_nil (.inl (by decide))
  have hmade : s₂.bench.journal = s.bench.journal ++ (ahead ++ made) := by
    rw [hjournal, hahead.journal, List.append_assoc]
  cases result with
  | error stop =>
      refine ⟨ahead ++ made, ?_, ?_⟩
      · rw [h.run_of_error hrun]
        exact hmade
      · rw [definitions_append, hnone]
        rfl
  | ok _ =>
      obtain ⟨behind, hbehind⟩ := @advances_savingLegs σ c s₂ (Option.isSome_iff_exists.mpr (hopen rfl))
      have hnone' := hbehind.definitions_eq_nil (.inr (by decide))
      refine ⟨ahead ++ made ++ behind, ?_, ?_⟩
      · rw [h.run_snd_of_ok hrun, hbehind.journal, hmade, List.append_assoc]
      · rw [definitions_append, definitions_append, hnone, hnone', List.append_nil]
        rfl

end ComesTo

end Session

end BatchCompiler

import BatchCompiler.Proofs.Diagnostic.Kept
import BatchCompiler.Proofs.Pipeline.Station

/-!
# Stretches of a run

A stretch is what lies between two moments of a run: calls that were added to the journal, and reports
that were submitted.  Every piece of the compiler's work is a stretch between two stations, and two
stretches in a row are one.

## Main definitions

* `Stretch` — calls between two stations, in order, none of them made against its condition
* `Station.Joins` — how two stretches meet
* `Advances` — some stretch leads from one bench to another
* `Bench.Did` — the calls made and the reports submitted between two benches

## Main statements

* `Stretch.of_call` — one call
* `Stretch.join` — two stretches in a row
-/

namespace BatchCompiler

variable {σ α β : Type}

/-- **A stretch of a run** from `lo` up to `hi`, station `hi` not included: `made` has been added to the
journal on the way from `b` to `b'`. -/
structure Stretch (lo hi : Station) (b b' : Bench σ) (made : List JournalEntry) : Prop where
  journal : b'.journal = b.journal ++ made
  engine : ∃ rs, b'.engine = b.engine.submitAll rs
  within : ∀ e ∈ made, lo.rank ≤ e.station.rank ∧ e.station.rank < hi.rank
  counts : ∀ e ∈ made, b.engine.errors ≤ e.errors ∧ e.errors ≤ b'.engine.errors
  gated : ∀ e ∈ made, e.station.needsNoError = true → e.errors = 0
  ordered : made.Pairwise JournalEntry.Precedes

/-- **How two stretches meet**: the second goes on where the first has come to, or both are at one station
that repeats. -/
inductive Station.Joins : Station → Station → Station → Station → Prop
  | behind {lo mid hi : Station} (hlo : lo.rank ≤ mid.rank) (hhi : mid.rank ≤ hi.rank) :
      Joins lo mid mid hi
  | again {st hi : Station} (hrepeats : st.repeats = true) (hone : hi.rank = st.rank + 1) :
      Joins st hi st hi

theorem Station.Joins.le {lo mid mid' hi : Station} (h : Joins lo mid mid' hi) :
    mid.rank ≤ hi.rank := by
  cases h with
  | behind _ hhi => exact hhi
  | again => exact le_rfl

/-- **Some stretch leads from one bench to the other.** -/
def Advances (lo hi : Station) (b b' : Bench σ) : Prop := ∃ made, Stretch lo hi b b' made

namespace Stretch

variable {lo hi : Station} {b b' b'' : Bench σ} {made more : List JournalEntry}

/-- No error is taken back along a stretch. -/
theorem errors_le (h : Stretch lo hi b b' made) : b.engine.errors ≤ b'.engine.errors := by
  obtain ⟨rs, hengine⟩ := h.engine
  rw [hengine]
  exact Engine.errors_le_submitAll b.engine rs

/-- A call whose station lies outside is not among those made. -/
theorem not_mem {e : JournalEntry} (h : Stretch lo hi b b' made)
    (houtside : e.station.rank < lo.rank ∨ hi.rank ≤ e.station.rank) : e ∉ made := by
  intro mem
  obtain ⟨hlo, hhi⟩ := h.within e mem
  omega

/-- **Two stretches in a row**, if what the second calls may come after what the first has called. -/
theorem append (h : Stretch lo hi b b' made) (h' : Stretch lo hi b' b'' more)
    (horder : ∀ e ∈ made, ∀ e' ∈ more, e.station.rank < e'.station.rank ∨
      e.station = e'.station ∧ e.station.repeats = true) :
    Stretch lo hi b b'' (made ++ more) where
  journal := by rw [h'.journal, h.journal, List.append_assoc]
  engine := by
    obtain ⟨rs, hengine⟩ := h.engine
    obtain ⟨rs', hengine'⟩ := h'.engine
    exact ⟨rs ++ rs', by rw [hengine', hengine, Engine.submitAll_append]⟩
  within e mem := (List.mem_append.mp mem).elim (h.within e) (h'.within e)
  counts e mem := by
    rcases List.mem_append.mp mem with mem | mem
    · exact ⟨(h.counts e mem).1, Nat.le_trans (h.counts e mem).2 h'.errors_le⟩
    · exact ⟨Nat.le_trans h.errors_le (h'.counts e mem).1, (h'.counts e mem).2⟩
  gated e mem := (List.mem_append.mp mem).elim (h.gated e) (h'.gated e)
  ordered := List.pairwise_append.mpr ⟨h.ordered, h'.ordered, fun e mem e' mem' =>
    ⟨horder e mem e' mem', Nat.le_trans (h.counts e mem).2 (h'.counts e' mem').1⟩⟩

theorem mono {lo' hi' : Station} (h : Stretch lo hi b b' made) (hlo : lo'.rank ≤ lo.rank)
    (hhi : hi.rank ≤ hi'.rank) : Stretch lo' hi' b b' made :=
  { h with
    within := fun e mem =>
      ⟨Nat.le_trans hlo (h.within e mem).1, Nat.lt_of_lt_of_le (h.within e mem).2 hhi⟩ }

/-- A stretch that calls nobody. -/
theorem of_journal_eq {rs : List Report} (hjournal : b'.journal = b.journal)
    (hengine : b'.engine = b.engine.submitAll rs) : Stretch lo hi b b' [] where
  journal := by rw [hjournal, List.append_nil]
  engine := ⟨rs, hengine⟩
  within := nofun
  counts := nofun
  gated := nofun
  ordered := .nil

theorem refl (lo hi : Station) (b : Bench σ) : Stretch lo hi b b [] :=
  of_journal_eq rfl (Engine.submitAll_nil b.engine).symm

/-- **One call**, made under the condition of its station. -/
theorem of_call {call : Call} {granted : Bool} {rs : List Report}
    (hone : hi.rank = call.station.rank + 1)
    (hgate : call.station.needsNoError = true → b.engine.errors = 0)
    (hjournal : b'.journal = b.journal ++ [⟨call, b.engine.errors, granted⟩])
    (hengine : b'.engine = b.engine.submitAll rs) :
    Stretch call.station hi b b' [⟨call, b.engine.errors, granted⟩] := by
  refine ⟨hjournal, ⟨rs, hengine⟩, ?_, ?_, ?_, ?_⟩
  · intro e mem
    rw [List.mem_singleton.mp mem]
    exact ⟨le_rfl, hone ▸ Nat.lt_succ_self _⟩
  · intro e mem
    rw [List.mem_singleton.mp mem, hengine]
    exact ⟨le_rfl, Engine.errors_le_submitAll b.engine rs⟩
  · intro e mem
    rw [List.mem_singleton.mp mem]
    exact hgate
  · exact List.pairwise_singleton _ _

/-- **Two stretches in a row**, however they meet. -/
theorem join {mid mid' : Station} (hjoin : Station.Joins lo mid mid' hi)
    (h : Stretch lo mid b b' made) (h' : Stretch mid' hi b' b'' more) :
    Stretch lo hi b b'' (made ++ more) := by
  cases hjoin with
  | behind hlo hhi =>
      exact (h.mono le_rfl hhi).append (h'.mono hlo le_rfl) fun e mem e' mem' =>
        .inl (Nat.lt_of_lt_of_le (h.within e mem).2 (h'.within e' mem').1)
  | again hrepeats hone =>
      refine h.append h' fun e mem e' mem' => .inr ?_
      -- Ahead of the next station there is no station but this one.
      have hst : e.station = lo := Station.rank_inj (by have := h.within e mem; omega)
      have hst' : e'.station = lo := Station.rank_inj (by have := h'.within e' mem'; omega)
      rw [hst, hst']
      exact ⟨rfl, hrepeats⟩

end Stretch

namespace Advances

variable {lo hi : Station} {b b' : Bench σ}

theorem refl (lo hi : Station) (b : Bench σ) : Advances lo hi b b := ⟨[], .refl lo hi b⟩

end Advances

/-! ## Jobs -/

namespace Notice

theorem reports_map_event (f : α → Event) (as : List α) :
    reports (as.map fun a => .event (f a)) = [] := by
  induction as with
  | nil => rfl
  | cons a rest ih => exact ih

theorem reports_map_report (rs : List Report) : reports (rs.map .report) = rs := by
  induction rs with
  | nil => rfl
  | cons r rest ih => exact congrArg (r :: ·) ih

end Notice

namespace Job

/-- What comes after a first job. -/
theorem bind_of_eq {j : Job σ α} {f : α → Job σ β} {b b₁ : Bench σ} {a : α} (h : j b = (a, b₁)) :
    (j >>= f) b = f a b₁ := by
  show f (j b).1 (j b).2 = _
  rw [h]

/-- Asking a collaborator adds one entry to the journal and leaves the engine alone. -/
theorem ask_journal [Answer α] (call : Call) (act : Act σ α) (b : Bench σ) :
    (ask call act b).2.journal =
      b.journal ++ [⟨call, b.engine.errors, Answer.granted (ask call act b).1⟩] := rfl

theorem ask_engine [Answer α] (call : Call) (act : Act σ α) (b : Bench σ) :
    (ask call act b).2.engine = b.engine := by
  show (b.desk.takeAll (List.map (fun r => .event (.log r)) _)).engine = b.desk.engine
  rw [Desk.takeAll_engine, Notice.reports_map_event, Engine.submitAll_nil]

theorem consult_journal [Answer α] (call : Call) (act : Engine → Act σ (α × List Report))
    (b : Bench σ) :
    (consult call act b).2.journal =
      b.journal ++ [⟨call, b.engine.errors, Answer.granted (consult call act b).1⟩] := rfl

/-- Consulting a collaborator submits what it reports. -/
theorem consult_engine [Answer α] (call : Call) (act : Engine → Act σ (α × List Report))
    (b : Bench σ) :
    (consult call act b).2.engine =
      b.engine.submitAll (act b.engine ⟨b.own, b.files, []⟩).1.2 := by
  show ((ask call (act b.engine) b).2.desk.takeAll (List.map _ _)).engine = _
  rw [Desk.takeAll_engine, Notice.reports_map_report]
  exact congrArg (Engine.submitAll · _) (ask_engine call (act b.engine) b)

end Job

/-! ## What jobs have done -/

/-- **What has been done** from one bench to another: calls made, and reports submitted.  No file has
changed. -/
structure Bench.Did (calls : List Call) (rs : List Report) (b b' : Bench σ) : Prop where
  journal : ∃ made, b'.journal = b.journal ++ made ∧ made.map JournalEntry.call = calls
  engine : b'.engine = b.engine.submitAll rs
  files : b'.files = b.files

namespace Bench.Did

variable {calls more : List Call} {rs rs' : List Report} {b b' b'' : Bench σ}

theorem refl (b : Bench σ) : Did [] [] b b := ⟨⟨[], (List.append_nil _).symm, rfl⟩, rfl, rfl⟩

theorem trans (h : Did calls rs b b') (h' : Did more rs' b' b'') :
    Did (calls ++ more) (rs ++ rs') b b'' := by
  obtain ⟨made, hjournal, hcalls⟩ := h.journal
  obtain ⟨made', hjournal', hcalls'⟩ := h'.journal
  refine ⟨⟨made ++ made', ?_, ?_⟩, ?_, h'.files.trans h.files⟩
  · rw [hjournal', hjournal, List.append_assoc]
  · rw [List.map_append, hcalls, hcalls']
  · rw [h'.engine, h.engine, Engine.submitAll_append]

theorem congr (h : Did calls rs b b') (hcalls : calls = more) (hreports : rs = rs') :
    Did more rs' b b' :=
  hcalls ▸ hreports ▸ h

theorem tell (b : Bench σ) (ns : List Notice) :
    Did [] (Notice.reports ns) b (Job.tell ns b).2 :=
  ⟨⟨[], (List.append_nil _).symm, rfl⟩, Desk.takeAll_engine b.desk ns, rfl⟩

theorem ask {α : Type} [Answer α] (call : Call) (act : Act σ α) (b : Bench σ)
    (hfiles : (act ⟨b.own, b.files, []⟩).2.files = b.files) :
    Did [call] [] b (Job.ask call act b).2 :=
  ⟨⟨_, Job.ask_journal call act b, rfl⟩, Job.ask_engine call act b, hfiles⟩

end Bench.Did

end BatchCompiler

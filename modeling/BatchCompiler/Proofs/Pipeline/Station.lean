import Mathlib.Data.List.Sort
import BatchCompiler.Collaborator.Job

/-!
# Stations of a run

Every call of a collaborator has its station, and a run comes through the stations in one order.  Some
stations are a single call, others a number of calls of a kind; some may only be come to while no
error is counted.

## Main definitions

* `Station`, `Station.rank` — the stations, in order
* `Station.repeats`, `Station.needsNoError` — how often, and under what condition
* `Station.isOpen` — whether the output has been opened by then
* `Call.station` — where a call belongs
* `JournalEntry.Precedes` — the order of two entries of one run
* `Station.milestones` — the stations that are a single call of a phase's main work

## Main statements

* `milestones_of_pairwise_precedes` — entries in order pass every milestone once at most, and in order
-/

namespace BatchCompiler

/-- **A station of a run.** -/
inductive Station where
  | sources
  | references
  | opening
  | moduleMark
  | modules
  | coreTypes
  | tree
  | population
  | typeDefinitions
  | documentation
  | usings
  | attributes
  | complianceMark
  | compliance
  | code
  | closing
  | entryPoint
  | resources
  | nativeResources
  | saving
  /-- Behind every call. -/
  | finished
deriving DecidableEq, Repr

namespace Station

/-- Every station, in order. -/
def all : List Station :=
  [.sources, .references, .opening, .moduleMark, .modules, .coreTypes, .tree, .population,
   .typeDefinitions, .documentation, .usings, .attributes, .complianceMark, .compliance, .code,
   .closing, .entryPoint, .resources, .nativeResources, .saving, .finished]

/-- Position in the order. -/
def rank (st : Station) : Nat := all.idxOf st

/-- The station behind one. -/
def next (st : Station) : Station := all.getD (st.rank + 1) .finished

/-- **A station of any number of calls.** -/
def repeats : Station → Bool
  | .sources | .references | .moduleMark | .modules | .resources | .nativeResources => true
  | _ => false

/-- **A station that is come to only while no error is counted.** -/
def needsNoError : Station → Bool
  | .opening | .population | .documentation | .attributes | .code | .closing | .entryPoint
  | .saving => true
  | _ => false

/-- **The output is open** when a station is come to. -/
def isOpen : Station → Bool
  | .sources | .references | .opening => false
  | _ => true

/-- **The milestones**: the one call each that opens the output, does the main work of a phase, or
saves the output. -/
def milestones : List Station :=
  [.opening, .coreTypes, .tree, .population, .typeDefinitions, .documentation, .usings,
   .attributes, .compliance, .code, .closing, .entryPoint, .saving]

theorem mem_all (st : Station) : st ∈ all := by cases st <;> decide

theorem rank_inj {st st' : Station} (h : st.rank = st'.rank) : st = st' :=
  (List.idxOf_inj (mem_all st)).mp h

theorem rank_le_finished (st : Station) : st.rank ≤ Station.finished.rank := by cases st <;> decide

/-- Nothing comes before the sources. -/
theorem eq_sources_of_rank_le {st : Station} (h : st.rank ≤ Station.sources.rank) : st = .sources :=
  rank_inj (Nat.le_antisymm h (Nat.zero_le _))

/-- Only the sources come before the references. -/
theorem eq_sources_or_references_of_rank_le {st : Station} (h : st.rank ≤ Station.references.rank) :
    st = .sources ∨ st = .references :=
  (Nat.le_one_iff_eq_zero_or_eq_one.mp h).imp (fun h => rank_inj h) (fun h => rank_inj h)

theorem isOpen_iff {st : Station} : st.isOpen = true ↔ Station.opening.rank < st.rank := by
  cases st <;> decide

/-- Only the opening itself opens the output. -/
theorem isOpen_eq_of_next {st next : Station} (hst : st ≠ .opening) (hone : next.rank = st.rank + 1) :
    next.isOpen = st.isOpen := by
  have hne : st.rank ≠ Station.opening.rank := fun h => hst (rank_inj h)
  rw [Bool.eq_iff_iff, isOpen_iff, isOpen_iff, hone]
  omega

end Station

/-- **The station of a call.** -/
def Call.station : Call → Station
  | .tokens _ | .parse .. => .sources
  | .systemDirectory | .loadFrom _ | .loadByName _ | .probeModule _ => .references
  | .init .. => .opening
  | .supports .moduleOnly | .markModuleOnly => .moduleMark
  | .addModule _ => .modules
  | .resolveCoreTypes => .coreTypes
  | .resolveTree => .tree
  | .populate _ => .population
  | .defineTypes => .typeDefinitions
  | .exportDocs _ => .documentation
  | .verifyUsing => .usings
  | .resolveAttributes => .attributes
  | .isClsCompliant => .complianceMark
  | .verifyCompliance => .compliance
  | .emit => .code
  | .closeTypes => .closing
  | .defineEntryPoint .. => .entryPoint
  | .supports .resourceEmbedding | .embedResource .. | .linkResource .. => .resources
  | .supports .nativeResources | .supports .iconResources | .defineNativeResource _
  | .defineVersionInfo | .defineIcon _ => .nativeResources
  | .save .. => .saving

/-- The calls of the frontend are those of the first station. -/
theorem Call.role_eq_frontend_iff {call : Call} :
    call.role = .frontend ↔ call.station = .sources := by
  cases call with
  | supports capability => cases capability <;> decide
  | _ => simp [Call.role, Call.station]

/-- The calls of the loader are those of the second station. -/
theorem Call.role_eq_loader_iff {call : Call} :
    call.role = .loader ↔ call.station = .references := by
  cases call with
  | supports capability => cases capability <;> decide
  | _ => simp [Call.role, Call.station]

namespace JournalEntry

/-- The station of an entry's call. -/
abbrev station (e : JournalEntry) : Station := e.call.station

/-- **One entry comes before another**: at an earlier station, or at the same one if that repeats, and
with no more errors counted. -/
structure Precedes (e e' : JournalEntry) : Prop where
  order : e.station.rank < e'.station.rank ∨ e.station = e'.station ∧ e.station.repeats = true
  errors : e.errors ≤ e'.errors

theorem Precedes.rank_le {e e' : JournalEntry} (h : e.Precedes e') :
    e.station.rank ≤ e'.station.rank := by
  rcases h.order with hlt | ⟨heq, -⟩
  · exact Nat.le_of_lt hlt
  · exact (congrArg Station.rank heq).le

end JournalEntry

/-- The milestones that some entries pass. -/
def passed (made : List JournalEntry) : List Station :=
  (made.map JournalEntry.station).filter (· ∈ Station.milestones)

/-- Milestones passed come in strict order: none of them repeats. -/
theorem passed_pairwise {made : List JournalEntry} (h : made.Pairwise JournalEntry.Precedes) :
    (passed made).Pairwise fun st st' => st.rank < st'.rank := by
  unfold passed
  rw [List.pairwise_filter, List.pairwise_map]
  refine h.imp fun {e e'} hprecedes hmem _ => ?_
  rcases hprecedes.order with hlt | ⟨-, hrepeats⟩
  · exact hlt
  · have honce : ∀ st ∈ Station.milestones, st.repeats = false := by decide
    rw [honce _ (of_decide_eq_true hmem)] at hrepeats
    cases hrepeats

/-- **Entries in order pass every milestone once at most, and in order.** -/
theorem milestones_of_pairwise_precedes {made : List JournalEntry}
    (h : made.Pairwise JournalEntry.Precedes) : (passed made).Sublist Station.milestones := by
  have hpassed := passed_pairwise h
  have hnodup : (passed made).Nodup := hpassed.imp fun hlt heq => hlt.ne (congrArg Station.rank heq)
  have hsubset : passed made ⊆ Station.milestones := fun st mem =>
    of_decide_eq_true (List.mem_filter.mp mem).2
  have hmilestones : Station.milestones.Pairwise fun st st' => st.rank < st'.rank := by decide
  have : Std.Antisymm fun st st' : Station => st.rank < st'.rank :=
    ⟨fun _ _ hlt hgt => absurd hlt hgt.asymm⟩
  exact List.sublist_of_subperm_of_pairwise
    (List.subperm_of_subset hnodup hsubset) hpassed hmilestones

end BatchCompiler

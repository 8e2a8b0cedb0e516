import Mathlib
import BatchCompiler.Host.Manifest
import BatchCompiler.Proofs.CommandLine.Lists
import BatchCompiler.Proofs.Pipeline.Stretch
import BatchCompiler.Resource.Emission
import BatchCompiler.Scripted.Collaborators

/-!
# What becomes of resources

Resources are handed to the output backend once.  Each that was registered by then is treated by itself,
in one of five ways, by what it says and what the file system and the backend are like.  What is
registered later stays where it is.

## Main definitions

* `OutputBackend.HasCapabilities` — a backend that has certain capabilities, and leaves files alone
* `Treatment`, `ResourceTable.Treated` — what becomes of a resource
* `ResourceTable.Request`, `ResourceTable.performAll` — calls of a table, one after another

## Main statements

* `ResourceTable.existsUnique_treated` — every resource is treated in exactly one way
* `ResourceTable.exists_emitEach` — a whole list is treated, each resource by itself
* `ResourceTable.emitAll_after` — what emitting does after any calls
-/

namespace BatchCompiler

variable {σ : Type}

/-- Errors are counted, and what is unsupported is not. -/
theorem Engine.errors_submitAll_of_not_warning {rs : List Report}
    (h : ∀ r ∈ rs, r.diagnostic.severity ≠ .warning) (e : Engine) :
    (e.submitAll rs).errors = e.errors + rs.countP (·.diagnostic.severity = .error) := by
  induction rs generalizing e with
  | nil => rfl
  | cons r rest ih =>
      obtain ⟨hfirst, hrest⟩ := List.forall_mem_cons.mp h
      have hkept : e.policy.kept? r = some r.diagnostic := by
        unfold ReportingPolicy.kept?
        split
        · rename_i hwarning
          exact absurd hwarning hfirst
        · rfl
      rw [submitAll_cons, ih hrest, submit_errors, hkept, List.countP_cons, Option.toList_some,
        List.countP_singleton]
      omega

/-! ## Backends -/

/-- **A backend with certain capabilities**: it says which it has, and resources handed to it change no
file. -/
structure OutputBackend.HasCapabilities (output : OutputBackend σ)
    (capabilities : Capability → Bool) : Prop where
  supports (c : Capability) (site : Site σ) :
    (output.supports c site).1 = capabilities c ∧ (output.supports c site).2.files = site.files
  embedResource (name : String) (bytes : List UInt8) (visibility : Visibility) (site : Site σ) :
    (output.embedResource name bytes visibility site).2.files = site.files
  linkResource (name file : String) (visibility : Visibility) (site : Site σ) :
    (output.linkResource name file visibility site).2.files = site.files

theorem OutputBackend.HasCapabilities.exists_ask_supports {output : OutputBackend σ}
    {capabilities : Capability → Bool} (h : output.HasCapabilities capabilities) (c : Capability)
    (b : Bench σ) :
    ∃ b', Job.ask (.supports c) (output.supports c) b = (capabilities c, b') ∧
      b.Did [.supports c] [] b' :=
  ⟨_, Prod.ext (h.supports c _).1 rfl, .ask _ _ b (h.supports c _).2⟩

/-- The backend that writes a manifest has every capability. -/
theorem Host.manifestWriter_hasCapabilities :
    Host.manifestWriter.HasCapabilities fun _ => true :=
  ⟨fun _ _ => ⟨rfl, rfl⟩, fun _ _ _ _ => rfl, fun _ _ _ _ => rfl⟩

/-- The scripted backend has those that are not missing. -/
theorem Scripted.output_hasCapabilities (script : Scripted.Script) :
    (Scripted.output script).HasCapabilities fun c => !script.missing.contains c :=
  ⟨fun _ _ => ⟨rfl, rfl⟩, fun _ _ _ _ => rfl, fun _ _ _ _ => rfl⟩

/-! ## Treatments -/

/-- **What becomes of a resource**: the calls of the backend, the reports, and whether the backend has
got it. -/
structure Treatment where
  calls : List Call
  reports : List Report
  handed : Bool

namespace ResourceTable

/-- The report about a resource whose file cannot be read. -/
def readError (r : Resource) : Report :=
  .error 1566 ("Error reading resource file `" ++ r.file.text ++ "'")

/-- **How a resource is treated**, by the file system and by whether the backend can embed. -/
inductive Treated (files : FileSystem) (canEmbed : Bool) (r : Resource) : Treatment → Prop
  /-- It is embedded, with all the bytes of its file. -/
  | embedded {bytes : List UInt8} (hmode : r.mode = .embedded) (hcan : canEmbed = true)
      (hexists : files.pathExists r.file = true) (hread : files.read r.file = .ok bytes) :
      Treated files canEmbed r
        ⟨[.supports .resourceEmbedding, .embedResource r.name bytes r.visibility], [], true⟩
  /-- It is linked, under the last part of its path or the whole path where that is no name. -/
  | linked (hmode : r.mode = .linked) (hexists : files.pathExists r.file = true) :
      Treated files canEmbed r
        ⟨[.linkResource r.name r.file.fileNameOrText r.visibility], [], true⟩
  /-- Its file is missing. -/
  | missing (hmissing : files.pathExists r.file = false) :
      Treated files canEmbed r ⟨[], [readError r], false⟩
  /-- Its file is there, but cannot be read. -/
  | unreadable {fault : Fault} (hmode : r.mode = .embedded) (hcan : canEmbed = true)
      (hexists : files.pathExists r.file = true) (hread : files.read r.file = .error fault) :
      Treated files canEmbed r ⟨[.supports .resourceEmbedding], [readError r], false⟩
  /-- Its file is there, but the backend cannot embed. -/
  | unsupported (hmode : r.mode = .embedded) (hcannot : canEmbed = false)
      (hexists : files.pathExists r.file = true) :
      Treated files canEmbed r
        ⟨[.supports .resourceEmbedding], [.missingSupport "resource embedding"], false⟩

variable {files : FileSystem} {canEmbed : Bool} {r : Resource} {t t' : Treatment}
  {output : OutputBackend σ} {capabilities : Capability → Bool}

theorem Treated.unique (h : Treated files canEmbed r t) (h' : Treated files canEmbed r t') :
    t = t' := by
  cases h with
  | _ =>
      cases h' with
      | _ => simp_all

theorem exists_treated (files : FileSystem) (canEmbed : Bool) (r : Resource) :
    ∃ t, Treated files canEmbed r t := by
  cases hexists : files.pathExists r.file with
  | false => exact ⟨_, .missing hexists⟩
  | true =>
      cases hmode : r.mode with
      | linked => exact ⟨_, .linked hmode hexists⟩
      | embedded =>
          cases hcan : canEmbed with
          | false => exact ⟨_, .unsupported hmode rfl hexists⟩
          | true =>
              cases hread : files.read r.file with
              | ok bytes => exact ⟨_, .embedded hmode rfl hexists hread⟩
              | error fault => exact ⟨_, .unreadable hmode rfl hexists hread⟩

/-- **Every resource is treated in exactly one way.** -/
theorem existsUnique_treated (files : FileSystem) (canEmbed : Bool) (r : Resource) :
    ∃! t, Treated files canEmbed r t := by
  obtain ⟨t, ht⟩ := exists_treated files canEmbed r
  exact ⟨t, ht, fun _ h => h.unique ht⟩

/-- Nothing is warned of. -/
theorem Treated.severity_ne_warning (h : Treated files canEmbed r t) :
    ∀ report ∈ t.reports, report.diagnostic.severity ≠ .warning := by
  cases h with
  | embedded | linked => exact nofun
  | missing | unreadable | unsupported => exact List.forall_mem_singleton.mpr nofun

theorem severity_ne_warning_of_treated {rs : List Resource} {ts : List Treatment}
    (h : List.Forall₂ (Treated files canEmbed) rs ts) :
    ∀ report ∈ ts.flatMap Treatment.reports, report.diagnostic.severity ≠ .warning := by
  induction h with
  | nil => exact nofun
  | cons hfirst _ ih =>
      rw [List.flatMap_cons]
      exact List.forall_mem_append.mpr ⟨hfirst.severity_ne_warning, ih⟩

/-- **One resource is treated**, whatever became of others. -/
theorem exists_emitOne (h : output.HasCapabilities capabilities) (r : Resource) (b : Bench σ) :
    ∃ t b', emitOne output r b = (t.handed, b') ∧
      Treated b.files (capabilities .resourceEmbedding) r t ∧ b.Did t.calls t.reports b' := by
  have hfiles : (Job.files : Job σ FileSystem) b = (b.files, b) := rfl
  unfold emitOne
  rw [Job.bind_of_eq hfiles]
  cases hexists : b.files.pathExists r.file with
  | false => exact ⟨_, _, rfl, .missing hexists, .tell b [unreadable r.file]⟩
  | true =>
      cases hmode : r.mode with
      | linked =>
          exact ⟨_, _, rfl, .linked hmode hexists, .ask _ _ b (h.linkResource _ _ _ _)⟩
      | embedded =>
          obtain ⟨b₁, hask, hasked⟩ := h.exists_ask_supports .resourceEmbedding b
          have hfiles₁ : (Job.files : Job σ FileSystem) b₁ = (b.files, b₁) :=
            congrArg (·, b₁) hasked.files
          rw [if_neg (by decide)]
          dsimp only
          rw [Job.bind_of_eq hask]
          cases hcan : capabilities .resourceEmbedding with
          | false =>
              exact ⟨_, _, rfl, .unsupported hmode rfl hexists,
                hasked.trans (.tell b₁ [.report (.missingSupport "resource embedding")])⟩
          | true =>
              rw [if_neg (by decide), Job.bind_of_eq hfiles₁]
              cases hread : b.files.read r.file with
              | ok bytes =>
                  exact ⟨_, _, rfl, .embedded hmode rfl hexists hread,
                    hasked.trans (.ask _ _ b₁ (h.embedResource _ _ _ _))⟩
              | error fault =>
                  exact ⟨_, _, rfl, .unreadable hmode rfl hexists hread,
                    hasked.trans (.tell b₁ [.log .warn .resources ("reading " ++ r.file.text ++
                      " failed: " ++ fault.message), unreadable r.file])⟩

/-- **All are treated**, each by itself. -/
theorem exists_emitEach (h : output.HasCapabilities capabilities) (rs : List Resource) :
    ∀ b : Bench σ, ∃ ts b', emitEach output rs b = (ts.countP Treatment.handed, b') ∧
      List.Forall₂ (Treated b.files (capabilities .resourceEmbedding)) rs ts ∧
      b.Did (ts.flatMap Treatment.calls) (ts.flatMap Treatment.reports) b' := by
  induction rs with
  | nil => exact fun b => ⟨[], b, rfl, .nil, .refl b⟩
  | cons r rest ih =>
      intro b
      obtain ⟨t, b₁, hone, htreated, hdid⟩ := exists_emitOne h r b
      obtain ⟨ts, b', hrest, hall, hdidRest⟩ := ih b₁
      rw [hdid.files] at hall
      refine ⟨t :: ts, b', ?_, .cons htreated hall, hdid.trans hdidRest⟩
      unfold emitEach
      rw [Job.bind_of_eq hone, Job.bind_of_eq hrest, List.countP_cons, Nat.add_comm]
      rfl

/-! ## Calls of a table -/

/-- **A call of a table.** -/
inductive Request where
  | add (r : Resource)
  | emitAll

/-- The resource that a call would register. -/
def Request.resource? : Request → Option Resource
  | .add r => some r
  | .emitAll => none

/-- One call. -/
def perform (output : OutputBackend σ) (t : ResourceTable) : Request → Job σ ResourceTable
  | .add r => do
      Job.tell (t.add r).2
      return (t.add r).1
  | .emitAll => do
      let (_, t') ← t.emitAll output
      return t'

/-- Calls in order. -/
def performAll (output : OutputBackend σ) (t : ResourceTable) : List Request → Job σ ResourceTable
  | [] => return t
  | c :: rest => do
      let t' ← t.perform output c
      t'.performAll output rest

/-- The report about a name that is taken. -/
def nameTaken (r : Resource) : Notice :=
  .error 1508 ("The resource identifier `" ++ r.name ++ "' has already been used in this assembly")

variable {registered : List Resource} {table : ResourceTable}

/-- **Adding to a table** changes it only if the name is free. -/
theorem Holds.add_cases (h : Holds registered table) (r : Resource) :
    ((∃ r' ∈ registered, r'.name = r.name) → table.add r = (table, [nameTaken r])) ∧
      ((∀ r' ∈ registered, r'.name ≠ r.name) →
        ∃ table', table.add r = (table', []) ∧ table'.toList = table.toList ++ [r] ∧
          table'.emitted = table.emitted) := by
  have htaken : table.entries.contains r.name = true ↔ ∃ r' ∈ registered, r'.name = r.name := by
    show (table.get? r.name).isSome = true ↔ _
    rw [h.get?, List.find?_isSome]
    simp
  unfold ResourceTable.add
  constructor
  · intro hname
    rw [if_pos (htaken.mpr hname)]
    rfl
  · intro hname
    have hfree : ¬table.entries.contains r.name = true := fun hcontains => by
      obtain ⟨r', hmem, heq⟩ := htaken.mp hcontains
      exact hname r' hmem heq
    rw [if_neg hfree]
    refine ⟨_, rfl, OrderedMap.values_put_of_get?_eq_none ?_, rfl⟩
    simpa [OrderedMap.contains] using hfree

@[simp] theorem emitted_add (table : ResourceTable) (r : Resource) :
    (table.add r).1.emitted = table.emitted := by
  unfold ResourceTable.add
  split
  · rfl
  · rfl

/-- **What emitting does** to a table, whose resources are handed over the first time. -/
theorem exists_emitAll (h : output.HasCapabilities capabilities) (table : ResourceTable)
    (b : Bench σ) :
    ∃ count b', table.emitAll output b = ((count, { table with emitted := true }), b') ∧
      b'.files = b.files ∧
      (table.emitted = true →
        count = 0 ∧ b' = { b with desk := b'.desk } ∧ b'.engine = b.engine) ∧
      (table.emitted = false → ∃ ts : List Treatment,
        List.Forall₂ (Treated b.files (capabilities .resourceEmbedding)) table.toList ts ∧
          count = ts.countP Treatment.handed ∧
          b.Did (ts.flatMap Treatment.calls) (ts.flatMap Treatment.reports) b') := by
  unfold emitAll
  cases hemitted : table.emitted with
  | true =>
      have hsame : { table with emitted := true } = table := by rw [← hemitted]
      have hdid := Bench.Did.tell b [.log .debug .resources "resources already emitted"]
      refine ⟨0, _, ?_, hdid.files, fun _ => ⟨rfl, rfl, hdid.engine⟩, nofun⟩
      rw [if_pos rfl, hsame]
      rfl
  | false =>
      obtain ⟨ts, b', heach, htreated, hdid⟩ := exists_emitEach h table.toList b
      refine ⟨_, b', ?_, hdid.files, nofun, fun _ => ⟨ts, htreated, rfl, hdid⟩⟩
      rw [if_neg (by decide)]
      exact Job.bind_of_eq heach

/-- **After any calls** a table holds the resources that were registered, and has emitted if it was
asked to. -/
theorem exists_performAll (h : output.HasCapabilities capabilities) (requests : List Request) :
    ∀ {registered : List Resource} {table : ResourceTable} (b : Bench σ), Holds registered table →
      ∃ table' b', table.performAll output requests b = (table', b') ∧ b'.files = b.files ∧
        Holds (registered ++ requests.filterMap Request.resource?) table' ∧
        (table'.emitted = true ↔ table.emitted = true ∨ .emitAll ∈ requests) := by
  induction requests with
  | nil =>
      intro registered table b hholds
      exact ⟨table, b, rfl, rfl, by simpa using hholds, by simp⟩
  | cons c rest ih =>
      intro registered table b hholds
      cases c with
      | add r =>
          obtain ⟨table', b', hrest, hfiles, hall, hemitted⟩ :=
            ih (Job.tell (table.add r).2 b).2 (hholds.add r)
          refine ⟨table', b', hrest, hfiles, ?_, ?_⟩
          · rw [List.append_assoc] at hall
            exact hall
          · rw [hemitted]
            simp
      | emitAll =>
          obtain ⟨count, b₁, hemit, hfiles₁, -⟩ := exists_emitAll h table b
          have hholds' : Holds registered { table with emitted := true } := ⟨hholds.toList, hholds.get?⟩
          obtain ⟨table', b', hrest, hfiles, hall, hemitted⟩ := ih b₁ hholds'
          refine ⟨table', b', ?_, hfiles.trans hfiles₁, hall, ?_⟩
          · have hperform : table.perform output .emitAll b = ({ table with emitted := true }, b₁) :=
              Job.bind_of_eq hemit
            unfold performAll
            rw [Job.bind_of_eq hperform, hrest]
          · rw [hemitted]
            simp

/-- **Every resource is accounted for once.**  After any calls a table holds what was registered, in order
and one of a name.  A resource whose name is taken is reported and changes nothing; any other comes last.
If the table has not been asked to emit before, it now treats every resource that it holds by what this
says and by the file system and the capabilities alone, makes the calls and the reports that belong to
that, counting as errors those that are, and answers how many resources the backend has got.  If it has,
it answers zero, whatever was added since, and nothing is called or reported. -/
theorem emitAll_after (h : output.HasCapabilities capabilities) (requests : List Request)
    (b : Bench σ) :
    ∃ table b₁, performAll output {} requests b = (table, b₁) ∧ b₁.files = b.files ∧
      table.toList = (requests.filterMap Request.resource?).eraseDupsBy Resource.sameName ∧
      (∀ r, (∃ r' ∈ requests.filterMap Request.resource?, r'.name = r.name) →
        table.add r = (table, [nameTaken r])) ∧
      (∀ r, (∀ r' ∈ requests.filterMap Request.resource?, r'.name ≠ r.name) →
        ∃ table', table.add r = (table', []) ∧ table'.toList = table.toList ++ [r]) ∧
      ∃ count table' b₂, table.emitAll output b₁ = ((count, table'), b₂) ∧
        table'.toList = table.toList ∧
        (.emitAll ∈ requests →
          count = 0 ∧ table' = table ∧ b₂ = { b₁ with desk := b₂.desk } ∧ b₂.engine = b₁.engine) ∧
        (.emitAll ∉ requests → ∃ ts : List Treatment,
          List.Forall₂ (Treated b.files (capabilities .resourceEmbedding)) table.toList ts ∧
            count = ts.countP Treatment.handed ∧
            b₁.Did (ts.flatMap Treatment.calls) (ts.flatMap Treatment.reports) b₂ ∧
            b₂.engine.errors = b₁.engine.errors +
              (ts.flatMap Treatment.reports).countP (·.diagnostic.severity = .error)) := by
  obtain ⟨table, b₁, hperform, hfiles, hholds, hemitted⟩ := exists_performAll h requests b holds_nil
  rw [List.nil_append] at hholds
  obtain ⟨count, b₂, hemit, -, hlater, hfirst⟩ := exists_emitAll h table b₁
  have hdone : table.emitted = true ↔ .emitAll ∈ requests := by simpa using hemitted
  refine ⟨table, b₁, hperform, hfiles, hholds.toList, fun r => (hholds.add_cases r).1,
    fun r hfree => ?_, count, _, b₂, hemit, rfl, fun hmem => ?_, fun hmem => ?_⟩
  · obtain ⟨table', hadd, htoList, -⟩ := (hholds.add_cases r).2 hfree
    exact ⟨table', hadd, htoList⟩
  · obtain ⟨hcount, hbench, hengine⟩ := hlater (hdone.mpr hmem)
    refine ⟨hcount, ?_, hbench, hengine⟩
    rw [← hdone.mpr hmem]
  · obtain ⟨ts, htreated, hcount, hdid⟩ :=
      hfirst (Bool.eq_false_iff.mpr fun hemitted => hmem (hdone.mp hemitted))
    rw [hfiles] at htreated
    refine ⟨ts, htreated, hcount, hdid, ?_⟩
    rw [hdid.engine]
    exact Engine.errors_submitAll_of_not_warning (severity_ne_warning_of_treated htreated) _

/-- One file, and nothing else yet. -/
def oneFile : Bench Host.Manifest := ⟨{}, ⟨[], ⟨[(["a"], .file [])]⟩⟩, {}, []⟩

/-- A resource with that file, and one whose file is missing. -/
def present : Resource := ⟨"A", ⟨"a"⟩, .linked, .isPublic⟩

def absent : Resource := ⟨"B", ⟨"b"⟩, .embedded, .isPublic⟩

/-- The one is handed over, although the other is not. -/
theorem emitAll_after_missing : ∃ table b₁ table' b₂,
    performAll Host.manifestWriter {} [.add absent, .add present] oneFile = (table, b₁) ∧
      table.emitAll Host.manifestWriter b₁ = ((1, table'), b₂) ∧ b₂.engine.errors = 1 := by
  obtain ⟨table, b₁, hperform, -, htoList, -, -, count, table', b₂, hemit, -, -, hfirst⟩ :=
    emitAll_after Host.manifestWriter_hasCapabilities [.add absent, .add present] oneFile
  obtain ⟨ts, htreated, rfl, -, herrors⟩ := hfirst (by simp)
  have hkept : table.toList = [absent, present] := htoList.trans (by decide)
  rw [hkept] at htreated
  cases htreated with
  | cons habsent hmore =>
      cases hmore with
      | cons hpresent hnil =>
          cases hnil
          obtain rfl := habsent.unique (.missing (by cbv))
          obtain rfl := hpresent.unique (.linked rfl (by cbv))
          have hengine : b₁.engine.errors = 0 := by
            have hrun : (performAll Host.manifestWriter {} [.add absent, .add present] oneFile).2.engine
                = {} := by cbv
            rw [hperform] at hrun
            rw [hrun]
          rw [hengine] at herrors
          exact ⟨table, b₁, table', b₂, hperform, hemit, herrors⟩

end ResourceTable

end BatchCompiler

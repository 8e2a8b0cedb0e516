import BatchCompiler.Host.Collaborators
import BatchCompiler.Proofs.Host.Prepares

/-!
# The host's jobs

What resolving references, linking modules and emitting resources do to the manifest, if no error is
counted behind them: nothing, one module for each name, and one resource for each entry of a table.

## Main definitions

* `Host.linkedStem?` — the stem of the file that a module is linked from
* `Host.Records` — a resource of the manifest is the record of a resource

## Main statements

* `Host.makes_resolveAll`, `Host.makes_loadModules`, `Host.makes_emitAll`
-/

namespace BatchCompiler.Host

open Job

variable {files : FileSystem} {systemDirectory : Path}

/-! ## References -/

/-- A job that leaves the manifest. -/
abbrev Keeps {α : Type} (files : FileSystem) (j : Job Manifest α) (S : α → Prop) : Prop :=
  Makes files j fun own a own' => own' = own ∧ S a

theorem keeps_pure {α : Type} {a : α} {S : α → Prop} (h : S a) : Keeps files (pure a) S :=
  makes_pure fun _ => ⟨rfl, h⟩

theorem keeps_bind {α β : Type} {j : Job Manifest α} {f : α → Job Manifest β} {S : α → Prop}
    {T : β → Prop} (hj : Keeps files j S) (hf : ∀ a, Keeps files (f a) fun b => S a → T b) :
    Keeps files (j >>= f) T := by
  refine makes_bind hj fun a => (hf a).imp ?_
  rintro _ b _ ⟨rfl, hT⟩ own ⟨rfl, hS⟩
  exact ⟨rfl, hT hS⟩

theorem keeps_make (attempt : Attempt) :
    Keeps files (attempt.make (fileLoader systemDirectory)) fun _ => True := by
  cases attempt with
  | byPath path => exact (makes_ask _ fun _ => rfl).imp fun _ _ _ h => ⟨h.2, trivial⟩
  | byName name => exact (makes_ask _ fun _ => rfl).imp fun _ _ _ h => ⟨h.2, trivial⟩

theorem keeps_classify (e : LoadError) :
    Keeps files (classify (fileLoader systemDirectory) e) fun _ => True := by
  cases e with
  | badImage path log =>
      have hprobe : Keeps files
          (ask (.probeModule path) ((fileLoader systemDirectory).probeModule path)) fun _ => True :=
        (makes_ask _ fun _ => rfl).imp fun _ _ _ h => ⟨h.2, trivial⟩
      refine keeps_bind hprobe fun isModule => ?_
      split
      · exact keeps_pure fun _ => trivial
      · exact keeps_pure fun _ => trivial
  | notAUnit path => exact keeps_pure trivial
  | notFound path log => exact keeps_pure trivial

theorem keeps_tryAttempts (name : String) (attempts : List Attempt) : ∀ log,
    Keeps files (tryAttempts (fileLoader systemDirectory) name log attempts) fun _ => True := by
  induction attempts with
  | nil => exact fun log => keeps_pure trivial
  | cons attempt rest ih =>
      refine fun log => keeps_bind (keeps_make attempt) fun answer => ?_
      split
      · exact keeps_pure fun _ => trivial
      · exact (ih _).imp fun _ _ _ h => ⟨h.1, fun _ => trivial⟩
      · refine keeps_bind (keeps_classify _) fun problem => ?_
        exact keeps_pure fun _ _ => trivial

theorem keeps_tell (ns : List Notice) : Keeps files (tell ns) fun _ => True :=
  (makes_tell ns).imp fun _ _ _ h => ⟨h.1, trivial⟩

/-- A reference leaves the link path. -/
theorem keeps_resolve (r : ReferenceResolver) (name : String) (alias_ : Option String)
    (soft : Bool) :
    Keeps files (r.resolve (fileLoader systemDirectory) name alias_ soft) fun answer =>
      answer.2.linkPaths = r.linkPaths := by
  unfold ReferenceResolver.resolve
  split
  · exact keeps_pure rfl
  · refine keeps_bind (keeps_tryAttempts name _ _) fun answer => ?_
    split
    · exact keeps_bind (keeps_tell _) fun _ => keeps_pure fun _ _ => rfl
    · split
      · exact keeps_bind (keeps_tell _) fun _ => keeps_pure fun _ _ => rfl
      · exact keeps_bind (keeps_tell _) fun _ => keeps_pure fun _ _ => rfl

theorem keeps_resolveEach (soft : Bool) (entries : List (Option String × String)) :
    ∀ r : ReferenceResolver, Keeps files (r.resolveEach (fileLoader systemDirectory) soft entries)
      fun r' => r'.linkPaths = r.linkPaths := by
  induction entries with
  | nil => exact fun r => keeps_pure rfl
  | cons entry rest ih =>
      intro r
      refine keeps_bind (keeps_resolve r _ _ soft) fun answer => ?_
      exact (ih answer.2).imp fun _ _ _ h => ⟨h.1, fun hanswer => h.2.trans hanswer⟩

/-- **References leave the manifest and the link path.** -/
theorem keeps_resolveAll (r : ReferenceResolver) (set : ReferenceSet) (standardLibrary : Bool) :
    Keeps files (r.resolveAll (fileLoader systemDirectory) set standardLibrary) fun r' =>
      r'.linkPaths = r.linkPaths := by
  refine keeps_bind (keeps_resolveEach false _ r) fun r₁ => ?_
  refine keeps_bind (keeps_resolveEach true _ r₁) fun r₂ => ?_
  refine keeps_bind (keeps_resolveEach false _ r₂) fun r₃ => ?_
  refine (keeps_resolveEach false _ r₃).imp fun _ r₄ _ h => ⟨h.1, fun h₃ h₂ h₁ => ?_⟩
  rw [h.2, h₃, h₂, h₁]

/-! ## Modules -/

/-- **The stem of the file that a module is linked from**: the first of its candidates that is a
file. -/
def linkedStem? (files : FileSystem) (linkPaths : List Path) (name : String) : Option String :=
  ((moduleCandidates linkPaths name).find? fun path => files.isFile path).bind Path.fileStem?

/-- A file with an extension has a stem, which is the name of its unit. -/
theorem fileStem?_of_extensionOf {path : Path} (h : extensionOf path ≠ "") (isModule : Bool) :
    path.fileStem? = some (describe path isModule).name := by
  unfold describe
  cases hname : path.fileName? with
  | none =>
      refine absurd ?_ h
      unfold extensionOf Path.extension?
      rw [hname]
      decide
  | some name =>
      unfold Path.fileStem?
      rw [hname]
      rfl

/-- **A manifest with a module** that was loaded, or as it is if it could not be. -/
def Manifest.withModule (m : Manifest) : Except LoadError ResolvedUnit → Manifest
  | .ok unit => { m with modules := m.modules ++ [unit.name] }
  | .error _ => m

theorem addModule_eq (path : Path) (own : Manifest) :
    manifestWriter.addModule path ⟨own, files, []⟩ =
      (loadModuleFile files path, ⟨own.withModule (loadModuleFile files path), files, []⟩) := by
  have hfiles : (Act.files : Act Manifest FileSystem) ⟨own, files, []⟩ =
      (files, ⟨own, files, []⟩) := rfl
  unfold manifestWriter
  dsimp only [bind, StateT.bind]
  rw [hfiles]
  dsimp only
  cases loadModuleFile files path with
  | error problem => rfl
  | ok unit => rfl

/-- **What linking a file does**: a module is added to the manifest, or nothing is done. -/
theorem makes_addModule (path : Path) :
    Makes files (ask (.addModule path) (manifestWriter.addModule path)) fun own answer own' =>
      answer = loadModuleFile files path ∧
        own' = own.withModule (loadModuleFile files path) := by
  refine (makes_ask _ fun own => ?_).imp ?_
  · rw [addModule_eq]
  · rintro own answer own' ⟨rfl, rfl⟩
    rw [addModule_eq]
    exact ⟨rfl, rfl⟩

theorem loadModuleFile_ok {path : Path} {unit : ResolvedUnit}
    (h : loadModuleFile files path = .ok unit) :
    files.isFile path = true ∧ path.fileStem? = some unit.name := by
  unfold loadModuleFile at h
  split at h
  · cases h
  · split at h
    · cases h
    · rename_i hfile hextension
      cases h
      rw [Decidable.not_not] at hextension
      refine ⟨by simpa using hfile, fileStem?_of_extensionOf ?_ true⟩
      rw [hextension]
      decide

theorem loadModuleFile_notFound {path at_ : Path} {log : String}
    (h : loadModuleFile files path = .error (.notFound at_ log)) : files.isFile path = false := by
  unfold loadModuleFile at h
  split at h
  · rename_i hfile
    simpa using hfile
  · split at h
    · cases h
    · cases h

/-- **A module that is linked** is linked from the first candidate that is a file. -/
theorem makes_tryModules (name : String) (candidates : List Path) : ∀ log,
    Makes files (tryModules manifestWriter name log candidates) fun own answer own' =>
      ∀ found, answer = .ok found → ∃ stem,
        (candidates.find? fun path => files.isFile path).bind Path.fileStem? = some stem ∧
          own' = { own with modules := own.modules ++ [stem] } := by
  induction candidates with
  | nil => exact fun log => makes_pure fun own => nofun
  | cons candidate rest ih =>
      refine fun log => makes_bind (makes_addModule candidate) fun answer => ?_
      rw [List.find?_cons]
      split
      · rename_i unit
        refine makes_pure ?_
        rintro own' own ⟨hanswer, rfl⟩ found ⟨⟩
        obtain ⟨hfile, hstem⟩ := loadModuleFile_ok hanswer.symm
        rw [hfile, ← hanswer]
        exact ⟨unit.name, hstem, rfl⟩
      · refine (ih _).imp ?_
        rintro own' answer own'' hrest own ⟨hanswer, rfl⟩
        rw [loadModuleFile_notFound hanswer.symm]
        rw [← hanswer] at hrest
        exact hrest
      · exact makes_pure fun own own' _ => nofun
      · exact makes_pure fun own own' _ => nofun

theorem makes_loadModule (r : ReferenceResolver) (name : String) :
    Makes files (r.loadModule manifestWriter name) fun own answer own' =>
      answer.2.linkPaths = r.linkPaths ∧ ∃ stem,
        linkedStem? files r.linkPaths name = some stem ∧
          own' = { own with modules := own.modules ++ [stem] } := by
  refine makes_bind (makes_tryModules name _ "") fun answer => ?_
  split
  · refine makes_bind (makes_tell _) fun _ => makes_pure ?_
    rintro own₂ own₁ ⟨rfl, -⟩ own hlinked
    exact ⟨rfl, hlinked _ rfl⟩
  · rename_i problem
    refine makes_bind (makes_tell _) fun _ => makes_pure ?_
    rintro own₂ own₁ ⟨rfl, hnone⟩
    -- The problem has been reported, as an error.
    exact absurd rfl (hnone (.error problem.code problem.message) List.mem_cons_self)

/-- **One module for each name**, in order. -/
theorem makes_loadModules (names : List String) : ∀ r : ReferenceResolver,
    Makes files (r.loadModules manifestWriter names) fun own r' own' =>
      r'.linkPaths = r.linkPaths ∧ ∃ stems,
        names.map (linkedStem? files r.linkPaths) = stems.map some ∧
          own' = { own with modules := own.modules ++ stems } := by
  induction names with
  | nil => exact fun r => makes_pure fun own => ⟨rfl, [], rfl, by simp⟩
  | cons name rest ih =>
      refine fun r => makes_bind (makes_loadModule r name) fun answer => ?_
      refine (ih answer.2).imp ?_
      rintro own' r' own'' ⟨hpaths, stems, hstems, rfl⟩ own ⟨hanswer, stem, hstem, rfl⟩
      rw [hanswer] at hpaths hstems
      exact ⟨hpaths, stem :: stems, by simp [hstem, hstems], by simp⟩

/-! ## Resources -/

/-- **The record of a resource** in the manifest: its size if it is embedded, its file if it is
linked. -/
structure Records (files : FileSystem) (r : Resource) (record : ManifestResource) : Prop where
  name : record.name = r.name
  isPrivate : record.isPrivate = decide (r.visibility = .isPrivate)
  embedded : r.mode = .embedded → record.file = none ∧
    ∃ bytes, files.read r.file = .ok bytes ∧ record.size = some bytes.length
  linked : r.mode = .linked → record.size = none ∧ record.file = some r.file.fileNameOrText

/-- **One resource** that is handed over without an error is recorded. -/
theorem makes_emitOne (r : Resource) :
    Makes files (ResourceTable.emitOne manifestWriter r) fun own _ own' => ∃ record,
      Records files r record ∧ own' = own.addResource record := by
  have hunreadable : ∀ (ns : List Notice), ResourceTable.unreadable r.file ∈ ns →
      Makes files (tell ns) fun (_ : Manifest) (_ : Unit) _ => False := by
    intro ns mem
    refine (makes_tell ns).imp ?_
    rintro own _ own' ⟨-, hnone⟩
    refine hnone _ (List.mem_filterMap.mpr ⟨_, mem, rfl⟩) rfl
  refine makes_files_bind ?_
  dsimp only
  split
  · exact makes_bind (hunreadable _ (List.mem_singleton_self _)) fun _ =>
      makes_pure fun own own' => False.elim
  · split
    · rename_i hmode
      refine makes_bind (makes_ask _ fun own => rfl) fun supported => ?_
      split
      · refine makes_bind (makes_tell _) fun _ => makes_pure ?_
        rintro own₂ own₁ - own ⟨rfl, rfl⟩
        contradiction
      · refine makes_files_bind ?_
        split
        · rename_i bytes hread
          refine makes_bind (makes_ask _ fun own => rfl) fun _ => makes_pure ?_
          rintro own₂ own₁ ⟨-, rfl⟩ own ⟨-, rfl⟩
          refine ⟨_, ⟨rfl, rfl, fun _ => ⟨rfl, bytes, hread, rfl⟩, fun hlinked => ?_⟩, rfl⟩
          rw [hmode] at hlinked
          cases hlinked
        · exact makes_bind (hunreadable _ (by simp)) fun _ =>
            makes_pure fun own own' => False.elim
    · rename_i hmode
      refine makes_bind (makes_ask _ fun own => rfl) fun _ => makes_pure ?_
      rintro own₂ own₁ ⟨-, rfl⟩
      refine ⟨_, ⟨rfl, rfl, fun hembedded => ?_, fun _ => ⟨rfl, rfl⟩⟩, rfl⟩
      rw [hmode] at hembedded
      cases hembedded

/-- **One record for each resource**, in order. -/
theorem makes_emitEach (rs : List Resource) :
    Makes files (ResourceTable.emitEach manifestWriter rs) fun own _ own' => ∃ records,
      List.Forall₂ (Records files) rs records ∧
        own' = { own with resources := own.resources ++ records } := by
  induction rs with
  | nil => exact makes_pure fun own => ⟨[], .nil, by simp⟩
  | cons r rest ih =>
      refine makes_bind (makes_emitOne r) fun taken => makes_bind ih fun others => makes_pure ?_
      rintro own₂ own₁ ⟨records, hrecords, rfl⟩ own ⟨record, hrecord, rfl⟩
      exact ⟨record :: records, .cons hrecord hrecords, by simp [Manifest.addResource]⟩

/-- **All resources** are recorded the first time, and none when it has been done before. -/
theorem makes_emitAll (t : ResourceTable) :
    Makes files (t.emitAll manifestWriter) fun own _ own' => ∃ records,
      (t.emitted = false → List.Forall₂ (Records files) t.toList records) ∧
        own' = { own with resources := own.resources ++ records } := by
  unfold ResourceTable.emitAll
  split
  · rename_i hagain
    refine makes_bind (makes_tell _) fun _ => makes_pure ?_
    rintro own' own ⟨rfl, -⟩
    refine ⟨[], fun hfirst => ?_, by simp⟩
    rw [hagain] at hfirst
    cases hfirst
  · refine makes_bind (makes_emitEach t.toList) fun count => makes_pure ?_
    rintro own' own ⟨records, hrecords, rfl⟩
    exact ⟨records, fun _ => hrecords, rfl⟩

end BatchCompiler.Host

import BatchCompiler.Host.Loader
import BatchCompiler.Proofs.FileSystem.FileName
import BatchCompiler.Proofs.Reference.History

/-!
# References resolved again

A reference that was resolved to a unit is found among the units when it is resolved again, if the unit
is called what the reference is looked up as.  A reference loses `.dll` and `.exe` at its end, a unit
that was loaded from a file whatever extension made it a library; so they are called alike unless the
extension is written with capitals.

## Main definitions

* `Attempt.found` — what an attempt finds in a file system
* `hasCapitalExtension` — the extension of a library, in other than small letters

## Main statements

* `Host.tryAttempts_fileLoader` — the unit that is found depends on the files only
* `Host.name_of_found` — what that unit is called
* `ReferenceResolver.resolve_again` — a reference resolved again
-/

namespace BatchCompiler

variable {σ : Type}

/-! ## Names -/

/-- The extensions of libraries. -/
def libraryExtensions : List String := ["dll", "exe"]

/-- **The extension of a library, in other than small letters.** -/
def hasCapitalExtension (name : String) : Bool :=
  (Path.cutName name).2.any fun extension =>
    libraryExtensions.contains (Text.lowerCase extension) && !libraryExtensions.contains extension

theorem mem_libraryExtensions {extension : String} :
    extension ∈ libraryExtensions ↔ extension = "dll" ∨ extension = "exe" := by
  simp [libraryExtensions]

section Names

variable {name stem extension : String}

/-- Two names that end differently, but in as many characters. -/
theorem ne_of_tails {tail other : String} (hlength : tail.length = other.length)
    (hne : tail ≠ other) (rest more : String) : rest ++ tail ≠ more ++ other := by
  intro h
  have hlists := congrArg String.toList h
  rw [String.toList_append, String.toList_append] at hlists
  refine hne (String.toList_inj.mp (List.append_inj_right' hlists ?_))
  rw [String.length_toList, String.length_toList, hlength]

theorem simpleName_dll (stem : String) : simpleName (stem ++ ".dll") = stem := by
  unfold simpleName
  rw [Text.beforeTail?_eq_some_iff.mpr rfl]
  rfl

theorem simpleName_exe (stem : String) : simpleName (stem ++ ".exe") = stem := by
  have hnone : Text.beforeTail? ".dll" (stem ++ ".exe") = none := by
    rw [Option.eq_none_iff_forall_ne_some]
    intro rest hrest
    exact @ne_of_tails ".exe" ".dll" (by decide) (by decide) stem rest
      (Text.beforeTail?_eq_some_iff.mp hrest)
  unfold simpleName
  rw [hnone, Text.beforeTail?_eq_some_iff.mpr rfl]
  rfl

/-- Without `.dll` or `.exe` at its end a name stays as it is. -/
theorem simpleName_of_ne (hdll : ∀ rest, name ≠ rest ++ ".dll")
    (hexe : ∀ rest, name ≠ rest ++ ".exe") : simpleName name = name := by
  have hnone {tail : String} (htail : ∀ rest, name ≠ rest ++ tail) :
      Text.beforeTail? tail name = none := by
    rw [Option.eq_none_iff_forall_ne_some]
    exact fun rest hrest => htail rest (Text.beforeTail?_eq_some_iff.mp hrest)
  unfold simpleName
  rw [hnone hdll, hnone hexe]
  rfl

/-- **What a name with an extension is looked up as**: the stem, if the extension is that of a library
in small letters. -/
theorem simpleName_of_cutName (h : Path.cutName name = (stem, some extension)) :
    simpleName name = if extension ∈ libraryExtensions then stem else name := by
  obtain ⟨hname, -, hdot⟩ := Path.cutName_eq_some_iff.mp h
  by_cases hlibrary : extension ∈ libraryExtensions
  · rw [if_pos hlibrary, hname, String.append_assoc]
    obtain rfl | rfl := mem_libraryExtensions.mp hlibrary
    · exact simpleName_dll stem
    · exact simpleName_exe stem
  · -- A name has one last dot, and this one has another extension behind it.
    have hend (other : String) (hother : other ∈ libraryExtensions) (hplain : '.' ∉ other.toList)
        (rest : String) : name ≠ rest ++ "." ++ other := by
      intro hrest
      have hcut := Path.cutAtLast?_dot.mpr ⟨hrest, hplain⟩
      rw [Path.cutAtLast?_dot.mpr ⟨hname, hdot⟩] at hcut
      cases hcut
      exact hlibrary hother
    rw [if_neg hlibrary]
    refine simpleName_of_ne (fun rest => ?_) (fun rest => ?_)
    · have hdll := hend "dll" (by simp [libraryExtensions]) (by decide) rest
      rwa [String.append_assoc] at hdll
    · have hexe := hend "exe" (by simp [libraryExtensions]) (by decide) rest
      rwa [String.append_assoc] at hexe

theorem cutName_dll (h : name ≠ "") : Path.cutName (name ++ ".dll") = (name, some "dll") :=
  Path.cutName_eq_some_iff.mpr ⟨by rw [String.append_assoc]; rfl, h, by decide⟩

end Names

/-! ## Units from files -/

/-- **What an attempt finds in a file system.** -/
def Attempt.found (files : FileSystem) : Attempt → Except LoadError ResolvedUnit
  | .byPath path => Host.loadUnit files path
  | .byName name => .error (.notFound ⟨name⟩ "")

/-- What an attempt finds, if it finds anything, good or bad. -/
def Attempt.decision? (files : FileSystem) (attempt : Attempt) :
    Option (Except LoadError ResolvedUnit) :=
  match attempt.found files with
  | .error (.notFound ..) => none
  | answer => some answer

theorem Attempt.found_of_decision {files : FileSystem} {attempt : Attempt} {u : ResolvedUnit}
    (h : attempt.decision? files = some (.ok u)) : attempt.found files = .ok u := by
  unfold decision? at h
  split at h
  · cases h
  · exact Option.some.inj h

/-- A search that finds a unit has made the attempt that finds it. -/
theorem Searches.exists_call {loader : UnitLoader σ} {attempts : List Attempt} {b b' : Bench σ}
    {calls : List Call} {logs : List String} {finding : Finding} {u : ResolvedUnit}
    (h : Searches loader attempts b calls logs finding b') (hfinding : finding = .unit u) :
    ∃ attempt ∈ attempts, attempt.call ∈ calls ∧ ∃ b₁, (attempt.make loader b₁).1 = .ok u := by
  induction h with
  | nothing b => cases hfinding
  | missed _ _ ih =>
      obtain ⟨attempt, hattempt, hcall, hmade⟩ := ih hfinding
      exact ⟨attempt, List.mem_cons_of_mem _ hattempt, List.mem_cons_of_mem _ hcall, hmade⟩
  | @unit attempt rest _ b b' hmade =>
      cases hfinding
      exact ⟨attempt, List.mem_cons_self, List.mem_cons_self, b, congrArg Prod.fst hmade⟩
  | notAUnit _ => cases hfinding
  | badImage _ _ => cases hfinding

namespace Host

variable {files : FileSystem} {systemDirectory : Path} {name : String} {u : ResolvedUnit}

theorem loadUnit_eq_ok {path : Path} (h : loadUnit files path = .ok u) :
    files.isFile path = true ∧ extensionOf path ∈ libraryExtensions ∧ u = describe path false := by
  unfold loadUnit at h
  split at h
  · cases h
  · rename_i hfile
    have hisFile : files.isFile path = true := by simpa using hfile
    split at h
    · rename_i hextension
      cases h
      exact ⟨hisFile, mem_libraryExtensions.mpr (.inl hextension), rfl⟩
    · rename_i hextension
      cases h
      exact ⟨hisFile, mem_libraryExtensions.mpr (.inr hextension), rfl⟩
    · cases h
    · cases h

/-- **A unit from a joined path** is called the stem of what was joined. -/
theorem cutName_of_loadUnit {directory : Path} (hslash : '/' ∉ name.toList)
    (h : loadUnit files (directory.join name) = .ok u) :
    u.path = directory.join name ∧ ∃ extension, Path.cutName name = (u.name, some extension) ∧
      Text.lowerCase extension ∈ libraryExtensions := by
  obtain ⟨hfile, hextension, rfl⟩ := loadUnit_eq_ok h
  have hnone : Text.lowerCase "" ∉ libraryExtensions := by decide
  have hfileName := FileSystem.fileName?_of_isFile hslash hfile
  unfold extensionOf Path.extension? at hextension
  refine ⟨rfl, ?_⟩
  unfold describe Path.fileStem?
  dsimp only
  split at hfileName
  · rw [hfileName] at hextension
    exact absurd hextension hnone
  · rw [hfileName, Option.bind_some] at hextension
    rw [hfileName]
    rcases hcut : Path.cutName name with ⟨stem, _ | extension⟩
    · rw [hcut] at hextension
      exact absurd hextension hnone
    · rw [hcut] at hextension
      refine ⟨extension, ?_, hextension⟩
      rw [Option.map_some, Option.getD_some, hcut]

theorem not_mem_slash (h : isPathShaped name = false) : '/' ∉ name.toList := by
  intro hslash
  unfold isPathShaped at h
  rw [Bool.or_eq_false_iff] at h
  exact Bool.eq_false_iff.mp h.1 (List.elem_iff.mpr hslash)

/-- **What a candidate is called** that is a library: as the reference is looked up, unless the
extension is written with capitals. -/
theorem name_of_candidate {directory path : Path} (hshape : isPathShaped name = false)
    (hpath : path ∈ unitCandidates name directory) (h : loadUnit files path = .ok u) :
    u.name = simpleName name ∨ hasCapitalExtension name = true := by
  have hslash := not_mem_slash hshape
  rcases List.mem_cons.mp hpath with rfl | hadded
  · obtain ⟨-, extension, hcut, hlibrary⟩ := cutName_of_loadUnit hslash h
    by_cases hsmall : extension ∈ libraryExtensions
    · left
      rw [simpleName_of_cutName hcut, if_pos hsmall]
    · right
      unfold hasCapitalExtension
      simp [hcut, hlibrary, hsmall]
  · split at hadded
    · rename_i hplain
      obtain rfl := List.mem_singleton.mp hadded
      have hslash' : '/' ∉ (name ++ ".dll").toList := by
        rw [String.toList_append, List.mem_append, not_or]
        exact ⟨hslash, by decide⟩
      obtain ⟨-, extension, hcut, -⟩ := cutName_of_loadUnit hslash' h
      left
      rcases eq_or_ne name "" with rfl | hname
      · have hhidden : Path.cutName ("" ++ ".dll") = (".dll", none) := by decide
        rw [hhidden] at hcut
        exact absurd (congrArg Prod.snd hcut) (by simp)
      · rw [cutName_dll hname] at hcut
        rw [hplain]
        exact (congrArg Prod.fst hcut).symm
    · cases hadded

/-- **What the unit is called that an attempt finds.** -/
theorem name_of_found {linkPaths : List Path} {attempt : Attempt}
    (hshape : isPathShaped name = false) (hattempt : attempt ∈ attempts linkPaths name)
    (h : attempt.found files = .ok u) :
    attempt = .byPath u.path ∧ (u.name = simpleName name ∨ hasCapitalExtension name = true) := by
  unfold attempts at hattempt
  rw [if_neg (Bool.eq_false_iff.mp hshape)] at hattempt
  rcases List.mem_cons.mp hattempt with rfl | hpath
  · cases h
  · obtain ⟨path, hcandidate, rfl⟩ := List.mem_map.mp hpath
    obtain ⟨directory, -, hcandidate⟩ := List.mem_flatMap.mp hcandidate
    have hloaded : loadUnit files path = .ok u := h
    obtain ⟨-, -, hdescribed⟩ := loadUnit_eq_ok hloaded
    refine ⟨?_, name_of_candidate hshape hcandidate hloaded⟩
    rw [hdescribed]
    rfl

/-! ## Searches among files -/

variable {b : Bench σ}

/-- **An attempt finds what the files say**, and leaves them as they are. -/
theorem make_fileLoader (attempt : Attempt) (b : Bench σ) :
    (attempt.make (fileLoader systemDirectory) b).1 = attempt.found b.files ∧
      (attempt.make (fileLoader systemDirectory) b).2.files = b.files := by
  cases attempt with
  | byPath path => exact ⟨rfl, rfl⟩
  | byName name => exact ⟨rfl, rfl⟩

theorem classify_files (e : LoadError) (b : Bench σ) :
    (classify (fileLoader systemDirectory) e b).2.files = b.files := by
  cases e with
  | badImage path log =>
      rcases hprobed : Job.ask (.probeModule path)
        ((fileLoader systemDirectory).probeModule path) b with ⟨isModule, b'⟩
      rw [classify_badImage hprobed]
      exact (congrArg (fun answer => answer.2.files) hprobed).symm
  | notAUnit path => rfl
  | notFound path log => rfl

/-- **A search among files** leaves them as they are, and finds a unit if the first attempt does that
finds anything. -/
theorem tryAttempts_fileLoader (attempts : List Attempt) : ∀ (log : String) (b : Bench σ),
    (tryAttempts (fileLoader systemDirectory) name log attempts b).2.files = b.files ∧
      ((tryAttempts (fileLoader systemDirectory) name log attempts b).1 = .ok u ↔
        attempts.findSome? (Attempt.decision? b.files) = some (.ok u)) := by
  induction attempts with
  | nil =>
      intro log b
      exact ⟨rfl, iff_of_false (by intro h; cases h) (by intro h; cases h)⟩
  | cons attempt rest ih =>
      intro log b
      obtain ⟨hfound, hfiles⟩ := @make_fileLoader σ systemDirectory attempt b
      rcases hmade : attempt.make (fileLoader systemDirectory) b with ⟨answer, b₁⟩
      rw [hmade] at hfound hfiles
      dsimp only at hfound hfiles
      rw [tryAttempts, Job.bind_of_eq hmade, List.findSome?_cons]
      unfold Attempt.decision?
      rw [← hfound]
      rcases answer with problem | found
      · cases problem with
        | notFound path more =>
            dsimp only
            rw [← hfiles]
            exact ih (log ++ more) b₁
        | notAUnit path =>
            exact ⟨hfiles, iff_of_false (by intro h; cases h) (by intro h; cases h)⟩
        | badImage path more =>
            have hkept : (classify (fileLoader systemDirectory) (.badImage path more) b₁).2.files =
                b.files := (classify_files _ b₁).trans hfiles
            exact ⟨hkept, iff_of_false (by intro h; cases h) (by intro h; cases h)⟩
      · refine ⟨hfiles, ?_⟩
        show Except.ok found = .ok u ↔ some (Except.ok found) = some (.ok u)
        simp

/-- **What a search has found it finds again** in the same files. -/
theorem tryAttempts_again {attempts : List Attempt} {log : String} {b b' b₁ : Bench σ}
    (h : tryAttempts (fileLoader systemDirectory) name log attempts b = (.ok u, b'))
    (hfiles : b₁.files = b'.files) :
    ∃ b₂, tryAttempts (fileLoader systemDirectory) name log attempts b₁ = (.ok u, b₂) := by
  obtain ⟨hkept, hfirst⟩ :=
    @tryAttempts_fileLoader σ systemDirectory name u attempts log b
  obtain ⟨-, hagain⟩ := @tryAttempts_fileLoader σ systemDirectory name u attempts log b₁
  rw [h] at hkept hfirst
  rw [hfiles, hkept] at hagain
  exact ⟨_, Prod.ext (hagain.mpr (hfirst.mp rfl)) rfl⟩

/-- **A search that finds a unit has probed its file.** -/
theorem exists_probe {linkPaths : List Path} {log : String} {b b' : Bench σ}
    (hshape : isPathShaped name = false)
    (h : tryAttempts (fileLoader systemDirectory) name log (attempts linkPaths name) b =
      (.ok u, b')) :
    ∃ made, b'.journal = b.journal ++ made ∧ .loadFrom u.path ∈ made.map JournalEntry.call := by
  obtain ⟨calls, logs, finding, b₂, hsearch, htry⟩ := searches_tryAttempts
    (fileLoader systemDirectory) name (attempts linkPaths name) log b
  obtain ⟨hresult, rfl⟩ := Prod.mk.inj (htry.symm.trans h)
  have hunit : finding = .unit u := by
    cases finding with
    | unit other => exact congrArg Finding.unit (Except.ok.inj hresult)
    | _ => cases hresult
  obtain ⟨made, hjournal, hcalls⟩ := hsearch.journal
  obtain ⟨attempt, hattempt, hcall, b₁, hmade⟩ := hsearch.exists_call hunit
  rw [(make_fileLoader attempt b₁).1] at hmade
  rw [(name_of_found hshape hattempt hmade).1] at hcall
  rw [← hcalls] at hcall
  exact ⟨made, hjournal, hcall⟩

end Host

/-! ## References -/

namespace ReferenceResolver

variable {loader : UnitLoader σ} {r r' r₁ : ReferenceResolver} {name : String}
  {alias_ : Option String} {soft : Bool} {u : ResolvedUnit} {b b₁ : Bench σ} {position : Nat}

/-- **What is loaded stays loaded** at its position, whatever is loaded behind it. -/
theorem loaded?_of_grown (h : r.loaded? name = some position)
    (hunits : r.root.units <+: r'.root.units) : r'.loaded? name = some position := by
  obtain ⟨more, hmore⟩ := hunits
  unfold loaded? RootNamespace.position? at h ⊢
  split at h
  · cases h
  · rename_i hshape
    rw [if_neg hshape, ← hmore, List.findIdx?_append, h]
    rfl

/-- A unit that joins the root is loaded behind the others. -/
theorem loaded?_join (hshape : isPathShaped name = false) (h : r.loaded? name = none)
    (hname : u.name = simpleName name) :
    (r.join u alias_).loaded? name = some r.root.units.length := by
  unfold loaded? RootNamespace.position? at h ⊢
  unfold join
  rw [if_neg (Bool.eq_false_iff.mp hshape)] at h ⊢
  dsimp only
  rw [RootNamespace.bind_units]
  unfold RootNamespace.addUnit
  dsimp only
  rw [List.findIdx?_append, h]
  simp [hname]

/-- A unit that is called otherwise is not loaded under the name. -/
theorem loaded?_join_of_ne (h : r.loaded? name = none) (hname : u.name ≠ simpleName name) :
    (r.join u alias_).loaded? name = none := by
  rw [loaded?_eq_none_iff] at h ⊢
  refine h.imp_right fun hnone other hother => ?_
  have hunits : (r.join u alias_).root.units = r.root.units ++ [u] :=
    RootNamespace.bind_units _ _ _
  rw [hunits, List.mem_append, List.mem_singleton] at hother
  obtain hold | rfl := hother
  · exact hnone other hold
  · exact hname

/-- A reference that is resolved to a unit not loaded before has been searched for. -/
theorem found_of_resolve (hloaded : r.loaded? name = none)
    (h : r.resolve loader name alias_ soft b = ((.ok (some u), r₁), b₁)) :
    r₁ = r.join u alias_ ∧ ∃ b', b₁.files = b'.files ∧
      tryAttempts loader name "" (attempts r.linkPaths name) b = (.ok u, b') := by
  rcases htry : tryAttempts loader name "" (attempts r.linkPaths name) b with ⟨problem | found, b'⟩
  · by_cases hdropped : soft = true ∧ problem.code = 6
    · obtain ⟨rfl, hcode⟩ := hdropped
      cases problem with
      | notFound missing log =>
          obtain ⟨_, hresolve, -⟩ := resolve_of_dropped alias_ hloaded htry
          cases hresolve.symm.trans h
      | invalidMetadata file kind log => cases hcode
      | notAUnit file => cases hcode
    · have hkept : soft = true → problem.code ≠ 6 := fun hsoft hcode => hdropped ⟨hsoft, hcode⟩
      obtain ⟨_, hresolve, -⟩ := resolve_of_problem alias_ hloaded htry hkept
      cases hresolve.symm.trans h
  · obtain ⟨b₂, hresolve, hdesk, -⟩ := resolve_of_found alias_ soft hloaded htry
    cases hresolve.symm.trans h
    have hfiles := congrArg Bench.files hdesk
    exact ⟨rfl, b', hfiles, rfl⟩

/-- A unit that is loaded already is called as the reference is looked up. -/
theorem name_of_loaded (hloaded : r.loaded? name = some position)
    (h : r.resolve loader name alias_ soft b = ((.ok (some u), r₁), b₁)) :
    u.name = simpleName name := by
  obtain ⟨-, other, hother, hname⟩ := loaded?_eq_some hloaded
  rw [resolve_of_loaded hloaded] at h
  have hanswer := Except.ok.inj (congrArg (fun done => done.1.1) h)
  rw [hother] at hanswer
  cases hanswer
  exact hname

/-- **A unit that is called as the reference is looked up** is loaded under the name from then on. -/
theorem exists_loaded_of_resolve (hshape : isPathShaped name = false)
    (h : r.resolve loader name alias_ soft b = ((.ok (some u), r₁), b₁))
    (hname : u.name = simpleName name) :
    ∃ position, r₁.loaded? name = some position ∧ r₁.root.units[position]? = some u ∧
      r₁.root.Binds position alias_ := by
  cases hloaded : r.loaded? name with
  | some position =>
      rw [resolve_of_loaded hloaded] at h
      obtain ⟨⟨hanswer, rfl⟩, -⟩ := Prod.mk.inj h |>.imp_left Prod.mk.inj
      have hunits : (r.bind position alias_).root.units = r.root.units :=
        RootNamespace.bind_units _ _ _
      refine ⟨position, loaded?_of_grown hloaded ?_, ?_, r.root.binds_bind position alias_⟩
      · rw [hunits]
      · rw [hunits]
        exact Except.ok.inj hanswer
  | none =>
      obtain ⟨rfl, -⟩ := found_of_resolve hloaded h
      have hunits : (r.join u alias_).root.units = r.root.units ++ [u] :=
        RootNamespace.bind_units _ _ _
      refine ⟨r.root.units.length, loaded?_join hshape hloaded hname, ?_,
        RootNamespace.binds_bind _ _ _⟩
      rw [hunits, List.getElem?_concat_length]

/-- No call unloads a unit. -/
theorem units_prefix_makeAll {past : List Resolution} (h : r.root.Records past)
    (calls : List (ResolverCall σ)) (b : Bench σ) :
    r.root.units <+: (r.makeAll calls b).1.root.units := by
  have hmore := Records.makeAll calls h b
  rw [h.units, hmore.units, List.filterMap_append]
  exact List.prefix_append _ _

/-! ## Among files -/

variable {systemDirectory : Path}

/-- **A reference is resolved to the unit** of the first attempt that finds anything, if nothing is
loaded under the name. -/
theorem exists_resolve_of_first (hloaded : r.loaded? name = none)
    (hfirst : (attempts r.linkPaths name).findSome? (Attempt.decision? b.files) = some (.ok u)) :
    ∃ b₁, r.resolve (Host.fileLoader systemDirectory) name alias_ soft b =
      ((.ok (some u), r.join u alias_), b₁) := by
  obtain ⟨-, hfound⟩ := @Host.tryAttempts_fileLoader σ systemDirectory name u
    (attempts r.linkPaths name) "" b
  obtain ⟨b₁, hresolve, -⟩ := resolve_of_found alias_ soft hloaded
    (Prod.ext (hfound.mpr hfirst) rfl)
  exact ⟨b₁, hresolve⟩

/-- **A unit that is found among files** is called as the reference is looked up, unless the extension
is written with capitals. -/
theorem name_of_resolve (hshape : isPathShaped name = false)
    (h : r.resolve (Host.fileLoader systemDirectory) name alias_ soft b = ((.ok (some u), r₁), b₁)) :
    u.name = simpleName name ∨ hasCapitalExtension name = true := by
  cases hloaded : r.loaded? name with
  | some position => exact .inl (name_of_loaded hloaded h)
  | none =>
      obtain ⟨-, b', -, htry⟩ := found_of_resolve hloaded h
      have hfirst := (Host.tryAttempts_fileLoader _ "" b).2.mp (congrArg Prod.fst htry)
      obtain ⟨attempt, hattempt, hdecision⟩ := List.exists_of_findSome?_eq_some hfirst
      exact (Host.name_of_found hshape hattempt (Attempt.found_of_decision hdecision)).2

/-- **A unit that is called otherwise is searched for again**, and found again. -/
theorem resolve_of_ne (hshape : isPathShaped name = false)
    (h : r.resolve (Host.fileLoader systemDirectory) name alias_ soft b = ((.ok (some u), r₁), b₁))
    (hname : u.name ≠ simpleName name) (again : Option String) (soft' : Bool) :
    ∃ b₂ made, r₁.resolve (Host.fileLoader systemDirectory) name again soft' b₁ =
        ((.ok (some u), r₁.join u again), b₂) ∧
      b₂.journal = b₁.journal ++ made ∧ .loadFrom u.path ∈ made.map JournalEntry.call := by
  have hloaded : r.loaded? name = none := by
    rw [Option.eq_none_iff_forall_ne_some]
    exact fun position hposition => hname (name_of_loaded hposition h)
  obtain ⟨rfl, b', hfiles, htry⟩ := found_of_resolve hloaded h
  have hloaded₁ : (r.join u alias_).loaded? name = none := loaded?_join_of_ne hloaded hname
  obtain ⟨b₂, hsecond⟩ := Host.tryAttempts_again htry hfiles
  obtain ⟨b₃, hresolve, hdesk, -⟩ := resolve_of_found again soft' hloaded₁ hsecond
  obtain ⟨made, hjournal, hprobed⟩ := Host.exists_probe hshape hsecond
  have hkept := congrArg Bench.journal hdesk
  exact ⟨b₃, made, hresolve, hkept.trans hjournal, hprobed⟩

/-- **A reference that is resolved again.**  After any calls, a name without a slash is resolved to a
unit from files; and then it is resolved again.

The unit is called as the name is looked up, unless the name has the extension of a library in other
than small letters.  If it is called so, then after any further calls the name is resolved, under any
alias, to the unit at the same position: nobody is asked, no unit is added, and the unit is bound.  If
it is not, then the file is probed again, and the unit is added once more. -/
theorem resolve_again (earlier : List (ResolverCall σ)) (b₀ : Bench σ)
    (hshape : isPathShaped name = false)
    (h : (makeAll {} earlier b₀).1.resolve (Host.fileLoader systemDirectory) name alias_ soft b =
      ((.ok (some u), r₁), b₁)) :
    (hasCapitalExtension name = false → u.name = simpleName name) ∧
      (u.name = simpleName name → ∃ position,
        r₁.root.units[position]? = some u ∧ r₁.root.Binds position alias_ ∧
          ∀ (calls : List (ResolverCall σ)) (b₂ b₃ : Bench σ) (again : Option String)
              (soft' : Bool),
            let r₂ := (r₁.makeAll calls b₂).1
            r₂.resolve (Host.fileLoader systemDirectory) name again soft' b₃ =
                ((.ok (some u), r₂.bind position again), b₃) ∧
              (r₂.bind position again).root.units = r₂.root.units ∧
              (r₂.bind position again).root.Binds position again) ∧
      (u.name ≠ simpleName name → ∀ (again : Option String) (soft' : Bool), ∃ b₂ made,
        r₁.resolve (Host.fileLoader systemDirectory) name again soft' b₁ =
            ((.ok (some u), r₁.join u again), b₂) ∧
          (r₁.join u again).root.units = r₁.root.units ++ [u] ∧
          b₂.journal = b₁.journal ++ made ∧ .loadFrom u.path ∈ made.map JournalEntry.call) := by
  refine ⟨fun hsmall => ?_, fun hname => ?_, fun hname again soft' => ?_⟩
  · refine (name_of_resolve hshape h).resolve_right ?_
    rw [hsmall]
    exact Bool.false_ne_true
  · obtain ⟨position, hloaded, hunit, hbinds⟩ := exists_loaded_of_resolve hshape h hname
    refine ⟨position, hunit, hbinds, fun calls b₂ b₃ again soft' => ?_⟩
    have hpast := Records.makeAll earlier (r := {}) RootNamespace.records_empty b₀
    have hrecords := Records.resolve hpast (Host.fileLoader systemDirectory) name alias_ soft b
    rw [h] at hrecords
    have hprefix : r₁.root.units <+: (r₁.makeAll calls b₂).1.root.units :=
      units_prefix_makeAll hrecords calls b₂
    have hstill : (r₁.makeAll calls b₂).1.root.units[position]? = some u := by
      obtain ⟨more, hmore⟩ := hprefix
      rw [← hmore, List.getElem?_append_left (List.getElem?_eq_some_iff.mp hunit).1, hunit]
    refine ⟨?_, RootNamespace.bind_units _ _ _, RootNamespace.binds_bind _ _ _⟩
    rw [resolve_of_loaded (loaded?_of_grown hloaded hprefix), hstill]
  · obtain ⟨b₂, made, hresolve, hjournal, hprobed⟩ := resolve_of_ne hshape h hname again soft'
    exact ⟨b₂, made, hresolve, RootNamespace.bind_units _ _ _, hjournal, hprobed⟩

/-- A directory with two libraries, of which one has its extension in capitals. -/
def libraries : FileSystem where
  current := []
  entries := ⟨[(["lib"], .directory), (["lib", "a.dll"], .file []), (["lib", "a.DLL"], .file [])]⟩

/-- Both of them are libraries. -/
theorem loadUnit_libraries {file : String} (h : file = "a.dll" ∨ file = "a.DLL") :
    Host.loadUnit libraries ⟨"lib/" ++ file⟩ = .ok ⟨"a", ⟨"lib/" ++ file⟩, ["a"], false⟩ := by
  have hfile : libraries.isFile ⟨"lib/" ++ file⟩ = true := by
    refine FileSystem.isFile_iff.mpr ⟨?_, ["lib", file], [], ?_, ?_⟩
    · obtain rfl | rfl := h <;> decide
    · have hpieces : (⟨"lib/" ++ file⟩ : Path).pieces = ["lib", file] := by
        obtain rfl | rfl := h <;> decide
      have hstart : libraries.startOf ⟨"lib/" ++ file⟩ = [] := by
        obtain rfl | rfl := h <;> decide
      have hname : FileSystem.IsName file := by
        obtain rfl | rfl := h <;> exact ⟨by decide, by decide, by decide⟩
      have hentry : libraries.entry? ["lib", file] = some (.file []) := by
        obtain rfl | rfl := h <;> decide
      rw [hpieces, hstart]
      exact .enter rfl ⟨by decide, by decide, by decide⟩ rfl nofun
        (.enter rfl hname hentry nofun (.here _ _))
    · obtain rfl | rfl := h <;> decide
  unfold Host.loadUnit
  rw [hfile]
  obtain rfl | rfl := h <;> decide

/-- Each of them is found under its own name. -/
theorem exists_resolve_libraries {file : String} (h : file = "a.dll" ∨ file = "a.DLL") :
    let r : ReferenceResolver := { linkPaths := [⟨"lib"⟩] }
    let u : ResolvedUnit := ⟨"a", ⟨"lib/" ++ file⟩, ["a"], false⟩
    ∃ b₁ : Bench Unit, r.resolve (Host.fileLoader ⟨"syslib"⟩) file none false ⟨(), libraries, {}, []⟩ =
      ((.ok (some u), r.join u none), b₁) := by
  intro r u
  have hattempts : attempts r.linkPaths file = .byName (simpleName file) ::
      .byPath ⟨"lib/" ++ file⟩ :: (attempts r.linkPaths file).drop 2 := by
    obtain rfl | rfl := h <;> decide
  have hloaded : r.loaded? file = none := by
    obtain rfl | rfl := h <;> decide
  have hfound : (Attempt.byPath ⟨"lib/" ++ file⟩).decision? libraries = some (.ok u) := by
    unfold Attempt.decision? Attempt.found
    dsimp only
    rw [loadUnit_libraries h]
  refine exists_resolve_of_first hloaded ?_
  rw [hattempts, List.findSome?_cons, List.findSome?_cons, hfound]
  rfl

/-- A library with its extension in small letters is loaded once. -/
theorem resolve_again_small :
    let loader : UnitLoader Unit := Host.fileLoader ⟨"syslib"⟩
    let r := (makeAll {} [.setLinkPaths [⟨"lib"⟩]] (⟨(), libraries, {}, []⟩ : Bench Unit)).1
    let u : ResolvedUnit := ⟨"a", ⟨"lib/a.dll"⟩, ["a"], false⟩
    (∃ b₁, r.resolve loader "a.dll" none false ⟨(), libraries, {}, []⟩ =
      ((.ok (some u), r.join u none), b₁)) ∧
    ∃ position, ∀ b, (r.join u none).resolve loader "a.dll" (some "A") false b =
      ((.ok (some u), (r.join u none).bind position (some "A")), b) := by
  intro loader r u
  obtain ⟨b₁, hresolve⟩ := exists_resolve_libraries (.inl rfl : "a.dll" = "a.dll" ∨ _)
  obtain ⟨hname, honce, -⟩ := resolve_again [.setLinkPaths [⟨"lib"⟩]] ⟨(), libraries, {}, []⟩
    (by decide) hresolve
  obtain ⟨position, -, -, hagain⟩ := honce (hname (by decide))
  exact ⟨⟨b₁, hresolve⟩, position, fun b => (hagain [] b b (some "A") false).1⟩

/-- A library with its extension in capitals is probed and loaded again. -/
theorem not_loaded_once_of_capitals :
    let loader : UnitLoader Unit := Host.fileLoader ⟨"syslib"⟩
    let r := (makeAll {} [.setLinkPaths [⟨"lib"⟩]] (⟨(), libraries, {}, []⟩ : Bench Unit)).1
    let u : ResolvedUnit := ⟨"a", ⟨"lib/a.DLL"⟩, ["a"], false⟩
    isPathShaped "a.DLL" = false ∧ ∃ r₁ r₂ b₁ b₂ made,
      r.resolve loader "a.DLL" none false ⟨(), libraries, {}, []⟩ = ((.ok (some u), r₁), b₁) ∧
      r₁.resolve loader "a.DLL" none false b₁ = ((.ok (some u), r₂), b₂) ∧
      r₁.root.units = [u] ∧ r₁.root.global = [0] ∧
      r₂.root.units = [u, u] ∧ r₂.root.global = [0, 1] ∧
      b₂.journal = b₁.journal ++ made ∧ .loadFrom ⟨"lib/a.DLL"⟩ ∈ made.map JournalEntry.call := by
  intro loader r u
  have hshape : isPathShaped "a.DLL" = false := by decide
  obtain ⟨b₁, hfirst⟩ := exists_resolve_libraries (.inr rfl : "a.DLL" = "a.dll" ∨ _)
  obtain ⟨b₂, made, hsecond, hjournal, hprobed⟩ :=
    resolve_of_ne hshape hfirst (by decide) none false
  exact ⟨hshape, _, _, b₁, b₂, made, hfirst, hsecond, rfl, rfl, rfl, rfl, hjournal, hprobed⟩

end ReferenceResolver

end BatchCompiler

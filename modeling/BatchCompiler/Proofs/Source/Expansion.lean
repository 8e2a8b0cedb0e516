import BatchCompiler.Proofs.FileSystem.Directory
import BatchCompiler.Proofs.Source.Pattern
import BatchCompiler.Proofs.Source.Taking

/-!
# Expanding patterns

What a source argument with a pattern stands for.  Of a directory the files that match come first, in
the order of their names, and then with `recurse` what is found in its subdirectories, one after another
in the order of theirs.  A link to a directory is no subdirectory but may match like a file.  A
subdirectory is entered by its path; where that is too long none is found under it.

## Main definitions

* `SourceSet.Found`, `SourceSet.Found.Before` — what is found below a directory, and in which order
* `SourceSet.IsFound` — what there is to find

## Main statements

* `SourceSet.exists_expand_eq` — an expansion is what there is to find, in order
* `SourceSet.process_pattern` — what a source argument with a pattern adds and reports
-/

namespace BatchCompiler.SourceSet

open Text.Utf8 (encode)

/-! ## What is found -/

/-- **What is found** below a directory, in a subdirectory to which some names lead down. -/
inductive Found where
  | file (below : List String) (name : String)
  /-- A subdirectory whose path is too long. -/
  | tooLong (below : List String)

namespace Found

variable {f f' : Found} {directory : Path}

/-- The names that lead down. -/
def below : Found → List String
  | file below _ => below
  | tooLong below => below

/-- All names from the directory on. -/
def names : Found → List String
  | file below name => below ++ [name]
  | tooLong below => below

/-- What is found in a subdirectory, seen from above. -/
def under (name : String) : Found → Found
  | file below last => file (name :: below) last
  | tooLong below => tooLong (name :: below)

/-- The path under which it is found. -/
def path (directory : Path) (f : Found) : Path := f.names.foldl Path.join directory

/-- How it is met when the directory is expanded. -/
def met (directory : Path) (f : Found) : Met :=
  match f with
  | file _ _ => .file (f.path directory)
  | tooLong _ => .noDirectory (f.path directory)

/-- **In order**: by the subdirectories that lead down, where a directory is ahead of those below it,
and files of the same directory by their names; names are in the order of their bytes. -/
inductive Before : Found → Found → Prop
  | below {f f' : Found} (h : f.below.map encode < f'.below.map encode) : Before f f'
  | name {below : List String} {name other : String} (h : encode name < encode other) :
      Before (file below name) (file below other)

@[simp] theorem below_under (name : String) (f : Found) : (f.under name).below = name :: f.below := by
  cases f with
  | _ => rfl

@[simp] theorem names_under (name : String) (f : Found) : (f.under name).names = name :: f.names := by
  cases f with
  | _ => rfl

theorem met_under (name : String) (f : Found) :
    (f.under name).met directory = f.met (directory.join name) := by
  cases f with
  | _ => rfl

/-- Nothing is ahead of itself. -/
theorem Before.ne (h : Before f f') : f ≠ f' := by
  rintro rfl
  cases h with
  | below h => exact List.lt_irrefl _ h
  | name h => exact List.lt_irrefl _ h

theorem Before.under (h : Before f f') (name : String) : Before (f.under name) (f'.under name) := by
  cases h with
  | below h =>
      refine .below ?_
      rw [below_under, below_under, List.map_cons, List.map_cons, List.cons_lt_cons_iff]
      exact .inr ⟨rfl, h⟩
  | name h => exact .name h

/-- One subdirectory is ahead of another. -/
theorem before_of_subdirectories {name other : String} {rest rest' : List String}
    (hname : name < other) (hf : f.below = name :: rest) (hf' : f'.below = other :: rest') :
    Before f f' := by
  refine .below ?_
  rw [hf, hf', List.map_cons, List.map_cons, List.cons_lt_cons_iff]
  exact .inl (Text.Utf8.encode_lt_encode_iff.mpr hname)

/-- A file of a directory is ahead of what is in its subdirectories. -/
theorem before_of_subdirectory {name other : String} {rest : List String}
    (hf : f.below = other :: rest) : Before (file [] name) f := by
  refine .below ?_
  rw [hf]
  exact List.nil_lt_cons _ _

end Found

/-- **What there is to find** below the directory at a location, which has been found under a path. -/
inductive IsFound (fs : FileSystem) (selects : String → Bool) (recurse : Bool) :
    Path → Location → Found → Prop
  /-- An entry of the directory itself that matches and is no directory. -/
  | file {directory : Path} {at_ : Location} {name : String} {entry : Entry}
      (hentry : fs.entry? (at_ ++ [name]) = some entry) (hplain : entry ≠ .directory)
      (hmatch : selects name = true) : IsFound fs selects recurse directory at_ (.file [] name)
  /-- A subdirectory with a path that is too long. -/
  | tooLong {directory : Path} {at_ : Location} {name : String} (hrecurse : recurse = true)
      (hentry : fs.entry? (at_ ++ [name]) = some .directory)
      (hlong : FileSystem.pathLimit ≤ (directory.join name).text.utf8ByteSize) :
      IsFound fs selects recurse directory at_ (.tooLong [name])
  /-- What there is in any other subdirectory. -/
  | under {directory : Path} {at_ : Location} {name : String} {f : Found} (hrecurse : recurse = true)
      (hentry : fs.entry? (at_ ++ [name]) = some .directory)
      (hshort : (directory.join name).text.utf8ByteSize < FileSystem.pathLimit)
      (h : IsFound fs selects recurse (directory.join name) (at_ ++ [name]) f) :
      IsFound fs selects recurse directory at_ (f.under name)

variable {fs : FileSystem} {s : SourceSet} {spec pattern name : String} {selects : String → Bool}
  {recurse : Bool}
  {directory : Path} {at_ : Location} {f f' : Found}

/-! ## Paths -/

/-- **The path of what is found** has the components of the directory's, and the names behind them. -/
theorem IsFound.components_path (h : IsFound fs selects recurse directory at_ f) (hfs : fs.IsTree)
    (hdirectory : directory.text ≠ "") :
    (f.path directory).components = directory.components ++ f.names.map .name := by
  induction h with
  | file hentry _ _ => exact Path.components_join (hfs.isEntryName hentry) hdirectory
  | tooLong _ hentry _ => exact Path.components_join (hfs.isEntryName hentry) hdirectory
  | under _ hentry _ _ ih =>
      have hname := hfs.isEntryName hentry
      have hbelow := ih (Path.text_join_ne hname.no_slash hdirectory)
      rw [Path.components_join hname hdirectory] at hbelow
      rw [Found.path, Found.names_under]
      simpa [Found.path] using hbelow

/-- **Two files found have different paths.** -/
theorem IsFound.same_path_eq_false (hfs : fs.IsTree) (hdirectory : directory.text ≠ "")
    {below below' : List String} {name name' : String}
    (h : IsFound fs selects recurse directory at_ (.file below name))
    (h' : IsFound fs selects recurse directory at_ (.file below' name'))
    (hne : Found.file below name ≠ .file below' name') :
    ((Found.file below name).path directory).same ((Found.file below' name').path directory) =
      false := by
  refine decide_eq_false fun hsame => hne ?_
  rw [h.components_path hfs hdirectory, h'.components_path hfs hdirectory,
    List.append_cancel_left_eq] at hsame
  have hnames := (List.map_injective_iff.mpr fun _ _ => Path.Component.name.inj) hsame
  obtain ⟨rfl, hlast⟩ := List.append_inj' hnames rfl
  rw [List.singleton_inj.mp hlast]

/-- The first name on the way down is that of a subdirectory. -/
theorem IsFound.entry?_of_below (h : IsFound fs selects recurse directory at_ f) {rest : List String}
    (hbelow : f.below = name :: rest) : fs.entry? (at_ ++ [name]) = some .directory := by
  cases h with
  | file => cases hbelow
  | tooLong _ hentry _ =>
      obtain ⟨rfl, -⟩ := List.cons.inj hbelow
      exact hentry
  | under _ hentry _ _ =>
      rw [Found.below_under] at hbelow
      obtain ⟨rfl, -⟩ := List.cons.inj hbelow
      exact hentry

/-- **Below a subdirectory whose path is too long** nothing is found but that. -/
theorem IsFound.below_cons_iff_of_long (hentry : fs.entry? (at_ ++ [name]) = some .directory)
    (hlong : FileSystem.pathLimit ≤ (directory.join name).text.utf8ByteSize) :
    (IsFound fs selects true directory at_ f ∧ ∃ rest, f.below = name :: rest) ↔
      f = .tooLong [name] := by
  constructor
  · rintro ⟨hfound, rest, hrest⟩
    cases hfound with
    | file => cases hrest
    | tooLong =>
        obtain ⟨rfl, -⟩ := List.cons.inj hrest
        rfl
    | under _ _ hshort _ =>
        rw [Found.below_under] at hrest
        obtain ⟨rfl, -⟩ := List.cons.inj hrest
        exact absurd hlong (not_le.mpr hshort)
  · rintro rfl
    exact ⟨.tooLong rfl hentry hlong, [], rfl⟩

/-- Below any other there is what there is in it. -/
theorem IsFound.below_cons_iff_of_short (hentry : fs.entry? (at_ ++ [name]) = some .directory)
    (hshort : (directory.join name).text.utf8ByteSize < FileSystem.pathLimit) :
    (IsFound fs selects true directory at_ f ∧ ∃ rest, f.below = name :: rest) ↔
      ∃ f', IsFound fs selects true (directory.join name) (at_ ++ [name]) f' ∧ f'.under name = f := by
  constructor
  · rintro ⟨hfound, rest, hrest⟩
    cases hfound with
    | file => cases hrest
    | tooLong _ _ hlong =>
        obtain ⟨rfl, -⟩ := List.cons.inj hrest
        exact absurd hlong (not_le.mpr hshort)
    | @under _ _ _ f' _ _ _ hbelow =>
        rw [Found.below_under] at hrest
        obtain ⟨rfl, -⟩ := List.cons.inj hrest
        exact ⟨f', hbelow, rfl⟩
  · rintro ⟨f', hbelow, rfl⟩
    exact ⟨.under rfl hentry hshort hbelow, f'.below, Found.below_under name f'⟩

/-! ## Expansions -/

theorem mem_matching_children_iff (hfs : fs.IsTree) :
    name ∈ matching selects (fs.children at_) ↔
      (∃ entry, fs.entry? (at_ ++ [name]) = some entry ∧ entry ≠ .directory) ∧
        selects name = true := by
  simp only [mem_matching_iff, FileSystem.mem_children_iff hfs]

theorem mem_subdirectories_children_iff (hfs : fs.IsTree) :
    name ∈ subdirectories (fs.children at_) ↔ fs.entry? (at_ ++ [name]) = some .directory := by
  rw [← FileSystem.mem_children_iff hfs]
  unfold subdirectories
  simp only [List.mem_map, List.mem_filter, beq_iff_eq]
  constructor
  · rintro ⟨⟨_, entry⟩, ⟨hmem, rfl⟩, rfl⟩
    exact hmem
  · intro hmem
    exact ⟨(name, .directory), ⟨hmem, rfl⟩, rfl⟩

theorem pairwise_matching (hfs : fs.IsTree) (selects : String → Bool) (at_ : Location) :
    (matching selects (fs.children at_)).Pairwise (· < ·) :=
  List.pairwise_map.mpr ((FileSystem.pairwise_children hfs at_).filter _)

theorem pairwise_subdirectories (hfs : fs.IsTree) (at_ : Location) :
    (subdirectories (fs.children at_)).Pairwise (· < ·) :=
  List.pairwise_map.mpr ((FileSystem.pairwise_children hfs at_).filter _)

/-- What `levels` more levels meet of a directory that has been found. -/
def Expands (fs : FileSystem) (selects : String → Bool) (recurse : Bool) (levels : Nat) : Prop :=
  ∀ {directory : Path} {at_ : Location}, fs.directory? directory = some at_ →
    fs.depth < at_.length + levels →
    ∃ found : List Found, found.Pairwise Found.Before ∧
      (∀ f, f ∈ found ↔ IsFound fs selects recurse directory at_ f) ∧
      expand fs selects recurse levels directory = found.map (Found.met directory)

/-- **One subdirectory**: it is met itself when its path is too long, and what there is in it when not. -/
theorem Expands.subdirectory {levels : Nat} (h : Expands fs selects true levels) (hfs : fs.IsTree)
    (hdirectory : fs.directory? directory = some at_)
    (hlevels : fs.depth < at_.length + (levels + 1))
    (hentry : fs.entry? (at_ ++ [name]) = some .directory) :
    ∃ part : List Found, part.Pairwise Found.Before ∧
      (∀ f, f ∈ part ↔ IsFound fs selects true directory at_ f ∧ ∃ rest, f.below = name :: rest) ∧
      expand fs selects true levels (directory.join name) = part.map (Found.met directory) := by
  have hjoin := FileSystem.directory?_join hdirectory (hfs.isEntryName hentry) hentry
  have hdeep := FileSystem.length_le_depth hentry
  rw [List.length_append, List.length_singleton] at hdeep
  by_cases hlong : FileSystem.pathLimit ≤ (directory.join name).text.utf8ByteSize
  · rw [if_pos hlong] at hjoin
    refine ⟨[.tooLong [name]], List.pairwise_singleton _ _, fun f => ?_, ?_⟩
    · rw [List.mem_singleton, IsFound.below_cons_iff_of_long hentry hlong]
    · cases levels with
      | zero => omega
      | succ levels =>
          unfold expand
          rw [hjoin]
          rfl
  · rw [if_neg hlong] at hjoin
    have hbelow : fs.depth < (at_ ++ [name]).length + levels := by
      rw [List.length_append, List.length_singleton]
      omega
    obtain ⟨found, hpairwise, hfound, hexpand⟩ := h hjoin hbelow
    refine ⟨found.map (.under name), ?_, fun f => ?_, ?_⟩
    · exact List.pairwise_map.mpr (hpairwise.imp fun hbefore => hbefore.under name)
    · rw [List.mem_map, IsFound.below_cons_iff_of_short hentry (not_le.mp hlong)]
      simp only [hfound]
    · rw [hexpand, List.map_map]
      exact List.map_congr_left fun f _ => (Found.met_under name f).symm

/-- **One level more.** -/
theorem Expands.succ {levels : Nat} (h : Expands fs selects recurse levels) (hfs : fs.IsTree) :
    Expands fs selects recurse (levels + 1) := by
  intro directory at_ hdirectory hlevels
  have hfiles : ((matching selects (fs.children at_)).map (Found.file [])).Pairwise Found.Before :=
    List.pairwise_map.mpr ((pairwise_matching hfs selects at_).imp fun hname =>
      .name (Text.Utf8.encode_lt_encode_iff.mpr hname))
  have hmem (f : Found) : f ∈ (matching selects (fs.children at_)).map (Found.file []) ↔
      IsFound fs selects recurse directory at_ f ∧ f.below = [] := by
    rw [List.mem_map]
    constructor
    · rintro ⟨name, hname, rfl⟩
      obtain ⟨⟨entry, hentry, hplain⟩, hmatch⟩ := (mem_matching_children_iff hfs).mp hname
      exact ⟨.file hentry hplain hmatch, rfl⟩
    · rintro ⟨hfound, hbelow⟩
      cases hfound with
      | file hentry hplain hmatch =>
          exact ⟨_, (mem_matching_children_iff hfs).mpr ⟨⟨_, hentry, hplain⟩, hmatch⟩, rfl⟩
      | tooLong => cases hbelow
      | under =>
          rw [Found.below_under] at hbelow
          cases hbelow
  unfold expand
  rw [hdirectory]
  cases recurse with
  | false =>
      refine ⟨_, hfiles, fun f => (hmem f).trans (and_iff_left_of_imp fun hfound => ?_), ?_⟩
      · cases hfound with
        | file => rfl
        | tooLong hrecurse => cases hrecurse
        | under hrecurse => cases hrecurse
      · simp [Found.met, Found.path, Found.names, Function.comp_def]
  | true =>
      choose! part hpairwise hpart hexpand using
        fun name (hentry : fs.entry? (at_ ++ [name]) = some .directory) =>
          h.subdirectory hfs hdirectory hlevels hentry
      have hbelow {name : String} (hname : name ∈ subdirectories (fs.children at_)) {f : Found}
          (hf : f ∈ part name) : ∃ rest, f.below = name :: rest :=
        ((hpart name ((mem_subdirectories_children_iff hfs).mp hname) f).mp hf).2
      refine ⟨(matching selects (fs.children at_)).map (Found.file []) ++
        (subdirectories (fs.children at_)).flatMap part, ?_, fun f => ?_, ?_⟩
      · rw [List.pairwise_append, List.pairwise_flatMap]
        refine ⟨hfiles, ⟨fun name hname => ?_, ?_⟩, fun f hf f' hf' => ?_⟩
        · exact hpairwise name ((mem_subdirectories_children_iff hfs).mp hname)
        · refine (pairwise_subdirectories hfs at_).imp_of_mem ?_
          intro name other hname hother hless f hf f' hf'
          obtain ⟨rest, hrest⟩ := hbelow hname hf
          obtain ⟨rest', hrest'⟩ := hbelow hother hf'
          exact Found.before_of_subdirectories hless hrest hrest'
        · obtain ⟨name, -, rfl⟩ := List.mem_map.mp hf
          obtain ⟨other, hother, hf'⟩ := List.mem_flatMap.mp hf'
          obtain ⟨rest, hrest⟩ := hbelow hother hf'
          exact Found.before_of_subdirectory hrest
      · rw [List.mem_append, hmem, List.mem_flatMap]
        constructor
        · rintro (⟨hfound, -⟩ | ⟨name, hname, hf⟩)
          · exact hfound
          · exact ((hpart name ((mem_subdirectories_children_iff hfs).mp hname) f).mp hf).1
        · intro hfound
          cases hdown : f.below with
          | nil => exact .inl ⟨hfound, rfl⟩
          | cons name rest =>
              have hentry := hfound.entry?_of_below hdown
              exact .inr ⟨name, (mem_subdirectories_children_iff hfs).mpr hentry,
                (hpart name hentry f).mpr ⟨hfound, rest, hdown⟩⟩
      · rw [List.map_append, List.map_flatMap]
        refine congrArg₂ (· ++ ·) ?_ ?_
        · simp [Found.met, Found.path, Found.names, Function.comp_def]
        · refine List.flatMap_congr fun name hname => ?_
          exact hexpand name ((mem_subdirectories_children_iff hfs).mp hname)

/-- **An expansion** meets what there is to find, in order, if it reaches deep enough. -/
theorem expands (hfs : fs.IsTree) (selects : String → Bool) (recurse : Bool) (levels : Nat) :
    Expands fs selects recurse levels := by
  induction levels with
  | zero =>
      intro directory at_ hdirectory hlevels
      have hat := (FileSystem.directory?_eq_some_iff.mp hdirectory).2.2
      exact absurd (FileSystem.length_le_depth (of_decide_eq_true hat)) (not_le.mpr hlevels)
  | succ levels ih => exact ih.succ hfs

/-! ## Source arguments -/

/-- **A source argument with a pattern**, that is with a `*` in its last part or with `recurse`.  If its
first part leads to no directory it is reported not to be found, once, and adds nothing.  Otherwise it
adds, in order, the files there are to find that the set has not, and it warns of every one that the set
has; what is reported besides is each subdirectory whose path is too long. -/
theorem process_pattern (s : SourceSet) (hfs : fs.IsTree) {start : String}
    (hcut : directoryAndPattern spec = (start, pattern)) {engine : Regex.Engine}
    (hcompile : engine.compile (Glob.expression pattern) = .ok selects)
    (hmany : '*' ∈ pattern.toList ∨ recurse = true) :
    (fs.isDirectory ⟨start⟩ = false → s.process fs spec recurse engine = (s, [notFound spec])) ∧
      ∀ at_, fs.directory? ⟨start⟩ = some at_ → ∃ found : List Found,
        found.Pairwise Found.Before ∧ (∀ f, f ∈ found ↔ IsFound fs selects recurse ⟨start⟩ at_ f) ∧
          s.process fs spec recurse engine =
            (⟨s.files ++ ((found.map (Found.met ⟨start⟩)).filterMap Met.file?).filter
                fun p => !s.contains p⟩,
              (found.map (Found.met ⟨start⟩)).map (Met.notice s spec)) := by
  have hprocess : s.process fs spec recurse engine =
      s.takeInAll spec (expand fs selects recurse (fs.depth + 1) ⟨start⟩) := by
    have hplain : ¬(!pattern.toList.contains '*' && !recurse) = true := by
      simpa [imp_iff_not_or, or_comm] using hmany
    unfold process
    rw [hcut]
    dsimp only
    rw [if_neg hplain, hcompile]
  rw [hprocess]
  constructor
  · intro hnone
    have hnot : fs.directory? ⟨start⟩ = none := by
      refine Option.eq_none_iff_forall_ne_some.mpr fun at_ hfound => ?_
      exact Bool.eq_false_iff.mp hnone (FileSystem.isDirectory_iff.mpr ⟨at_, hfound⟩)
    unfold expand
    rw [hnot]
    rfl
  · intro at_ hdirectory
    obtain ⟨found, hpairwise, hfound, hexpand⟩ :=
      expands hfs selects recurse (fs.depth + 1) hdirectory (by omega)
    refine ⟨found, hpairwise, hfound, ?_⟩
    rw [hexpand]
    refine takeInAll_of_distinct ?_
    rw [List.pairwise_filterMap, List.pairwise_map]
    refine hpairwise.imp_of_mem fun {f f'} hf hf' hbefore p hp p' hp' => ?_
    have hstart := FileSystem.text_ne_of_directory? hdirectory
    cases f with
    | tooLong below => cases hp
    | file below name =>
        cases f' with
        | tooLong below => cases hp'
        | file below' name' =>
            cases hp
            cases hp'
            exact ((hfound _).mp hf').same_path_eq_false hfs hstart ((hfound _).mp hf)
              hbefore.ne.symm

/-- A file in a subdirectory. -/
def grove : FileSystem := ⟨[], ⟨[(["sub"], .directory), (["sub", "x.cs"], .file [])]⟩⟩

theorem directory?_grove : grove.directory? ⟨"."⟩ = some [] :=
  FileSystem.directory?_eq_some_iff.mpr ⟨by decide, .stay rfl (.inr rfl) (.here _ _), rfl⟩

/-- The names that the bundled engine selects by `*.cs`. -/
def csNames (name : String) : Bool := (Glob.regex "*.cs".toList).isFoundIn name.toList

theorem compile_cs : Regex.Engine.bundled.compile (Glob.expression "*.cs") = .ok csNames := rfl

/-- The file in the subdirectory is found, and taken in. -/
theorem process_pattern_grove : ⟨"./sub/x.cs"⟩ ∈ (process grove {} "*.cs" true).1.files := by
  have hcut : directoryAndPattern "*.cs" = (".", "*.cs") := by decide
  obtain ⟨found, -, hfound, hprocess⟩ :=
    (process_pattern {} (by decide : grove.IsTree) hcut compile_cs (.inr rfl)).2 [] directory?_grove
  have hfile : IsFound grove csNames true ⟨"."⟩ []
      ((Found.file [] "x.cs").under "sub") :=
    .under rfl rfl (by decide) (.file rfl nofun (by decide))
  rw [hprocess, List.mem_append, List.mem_filter]
  refine .inr ⟨List.mem_filterMap.mpr ⟨_, List.mem_map_of_mem ((hfound _).mpr hfile), ?_⟩, rfl⟩
  decide

/-! ### A path that is too long -/

/-- A dot and slashes behind it. -/
def dotted (slashes : Nat) : String := String.ofList ('.' :: List.replicate slashes '/')

variable {n : Nat}

theorem utf8ByteSize_dotted (n : Nat) : (dotted n).utf8ByteSize = n + 1 := by
  have hslashes (n : Nat) : String.utf8Len (List.replicate n '/') = n := by
    induction n with
    | zero => rfl
    | succ n ih => rw [List.replicate_succ, String.utf8Len_cons, ih]; rfl
  unfold dotted
  rw [String.utf8ByteSize_ofList, String.utf8Len_cons, hslashes]
  rfl

theorem pieces_dotted (n : Nat) : Path.pieces ⟨dotted n⟩ = "." :: List.replicate n "" := by
  have hslashes (n : Nat) : Text.splitChars (· = '/') (List.replicate n '/') =
      List.replicate (n + 1) [] := by
    induction n with
    | zero => rfl
    | succ n ih =>
        rw [List.replicate_succ, Text.splitChars, ih]
        rfl
  unfold Path.pieces Text.pieces dotted
  rw [String.toList_ofList, Text.splitChars, hslashes, List.replicate_succ]
  simp

/-- Slashes behind a dot lead nowhere else. -/
theorem directory?_dotted (h : n + 1 < FileSystem.pathLimit) :
    grove.directory? ⟨dotted n⟩ = some [] := by
  have hslashes (n : Nat) : FileSystem.Leads grove FileSystem.linkLimit [] (List.replicate n "") [] := by
    induction n with
    | zero => exact .here _ _
    | succ n ih => exact .stay rfl (.inl rfl) ih
  have hstart : grove.startOf ⟨dotted n⟩ = [] := by
    unfold FileSystem.startOf
    split
    · rfl
    · rfl
  refine FileSystem.directory?_eq_some_iff.mpr ⟨?_, ?_, rfl⟩
  · refine FileSystem.refused?_eq_none_iff.mpr ⟨?_, ?_, by rwa [utf8ByteSize_dotted]⟩
    · simp [dotted]
    · simp [dotted]
  · rw [hstart, pieces_dotted]
    exact .stay rfl (.inr rfl) (hslashes n)

theorem directoryAndPattern_dotted (n : Nat) :
    directoryAndPattern (dotted (n + 1) ++ "*.cs") = (dotted n, "*.cs") := by
  have hlast : Text.cutAtLast? '/' (dotted (n + 1) ++ "*.cs") = some (dotted n, "*.cs") := by
    rw [Text.cutAtLast?_eq_some_iff]
    refine ⟨?_, by decide⟩
    unfold dotted
    rw [String.toList_append, String.toList_ofList, String.toList_ofList, List.replicate_succ']
    simp
  have hne : dotted n ≠ "" := by simp [dotted]
  unfold directoryAndPattern
  rw [hlast]
  dsimp only [Option.orElse]
  split
  · rename_i hempty
    exact absurd (Prod.mk.inj (Option.some.inj hempty)).1 hne
  · rename_i heq
    exact (Option.some.inj heq).symm
  · rename_i hnone
    cases hnone

/-- The path of the subdirectory is too long. -/
theorem expand_dotted (selects : String → Bool) {n : Nat} (hshort : n + 2 < FileSystem.pathLimit)
    (hlong : FileSystem.pathLimit ≤ n + 5) :
    expand grove selects true 3 ⟨dotted (n + 1)⟩ =
      [.noDirectory ((⟨dotted (n + 1)⟩ : Path).join "sub")] := by
  have hchildren : grove.children [] = [("sub", .directory)] := by decide +kernel
  have htext : (⟨dotted (n + 1)⟩ : Path).join "sub" = ⟨dotted (n + 1) ++ "sub"⟩ := by
    have hlast : (dotted (n + 1)).toList.getLast? = some '/' := by
      unfold dotted
      rw [String.toList_ofList, List.replicate_succ', ← List.cons_append, List.getLast?_concat]
    unfold Path.join
    rw [if_neg (by decide), if_pos (.inr hlast)]
  have hbelow : grove.directory? ((⟨dotted (n + 1)⟩ : Path).join "sub") = none := by
    refine FileSystem.directory?_of_pathLimit_le ?_
    rw [htext, String.utf8ByteSize_append, utf8ByteSize_dotted]
    exact hlong
  unfold expand
  rw [directory?_dotted hshort]
  dsimp only
  rw [hchildren]
  simp [matching, subdirectories, expand, hbelow]

theorem process_dotted {n : Nat} (hshort : n + 2 < FileSystem.pathLimit)
    (hlong : FileSystem.pathLimit ≤ n + 5) :
    process grove {} (dotted (n + 2) ++ "*.cs") true =
      ({}, [notFound (dotted (n + 2) ++ "*.cs")]) := by
  have hdepth : grove.depth + 1 = 3 := by decide
  unfold process
  rw [directoryAndPattern_dotted]
  dsimp only
  rw [if_neg (by decide), compile_cs, hdepth]
  dsimp only
  rw [expand_dotted _ hshort hlong]
  rfl

/-- **A subdirectory whose path is too long** is not entered: of all there is below it nothing is added,
and an error is reported. -/
theorem process_longPath :
    grove.IsTree ∧ directoryAndPattern (dotted 4093 ++ "*.cs") = (dotted 4092, "*.cs") ∧
      Regex.Engine.bundled.compile (Glob.expression "*.cs") = .ok csNames ∧
      grove.directory? ⟨dotted 4092⟩ = some [] ∧ grove.entry? ["sub"] = some .directory ∧
      grove.entry? ["sub", "x.cs"] = some (.file []) ∧
      csNames "x.cs" = true ∧
      process grove {} (dotted 4093 ++ "*.cs") true =
        ({}, [notFound (dotted 4093 ++ "*.cs")]) :=
  ⟨by decide, directoryAndPattern_dotted 4092, compile_cs, directory?_dotted (by decide), rfl, rfl,
    by decide, process_dotted (by decide) (by decide)⟩

end BatchCompiler.SourceSet

import BatchCompiler.Proofs.FileSystem.FileName
import BatchCompiler.Proofs.Text.ByteOrder

/-!
# Directories

What a directory holds, and where a path leads that goes down from it.  The entries of a directory are
listed by name; the path of one is the path of the directory with its name joined, which leads there if
it is not too long.

## Main definitions

* `FileSystem.IsEntryName`, `FileSystem.IsTree` — what names and locations there are

## Main statements

* `FileSystem.mem_children_iff`, `FileSystem.pairwise_children` — the listing of a directory
* `FileSystem.directory?_join` — a subdirectory is found under its joined path
* `Path.components_join` — the components of a joined path
-/

namespace BatchCompiler

namespace FileSystem

/-- **A name under which a directory can hold an entry.** -/
structure IsEntryName (name : String) : Prop extends IsName name where
  no_slash : '/' ∉ name.toList
  no_zero : '\x00' ∉ name.toList

/-- **A directory tree**: every location has one entry, and is made of names. -/
structure IsTree (fs : FileSystem) : Prop where
  nodup : fs.entries.keys.Nodup
  names : ∀ at_ ∈ fs.entries.keys, ∀ name ∈ at_, IsEntryName name

instance (name : String) : Decidable (IsEntryName name) :=
  decidable_of_iff (¬(name = "" ∨ name = ".") ∧ name ≠ ".." ∧ ¬nameLimit < name.utf8ByteSize ∧
      '/' ∉ name.toList ∧ '\x00' ∉ name.toList)
    ⟨fun ⟨hidle, hup, hlong, hslash, hzero⟩ => ⟨⟨hidle, hup, hlong⟩, hslash, hzero⟩,
      fun h => ⟨h.not_idle, h.not_up, h.not_long, h.no_slash, h.no_zero⟩⟩

instance (fs : FileSystem) : Decidable fs.IsTree :=
  decidable_of_iff (fs.entries.keys.Nodup ∧ ∀ at_ ∈ fs.entries.keys, ∀ name ∈ at_, IsEntryName name)
    ⟨fun ⟨hnodup, hnames⟩ => ⟨hnodup, hnames⟩, fun h => ⟨h.nodup, h.names⟩⟩

end FileSystem

/-! ## Joined paths -/

namespace Path

variable {directory : Path} {name : String}

/-- What a path gains when a name is joined. -/
theorem exists_text_join (h : '/' ∉ name.toList) (directory : Path) :
    ∃ behind, (directory.join name).text = directory.text ++ behind ∧
      (behind = name ∨ behind = "/" ++ name) := by
  unfold join
  rw [if_neg (head?_ne_slash h)]
  split
  · exact ⟨name, rfl, .inl rfl⟩
  · exact ⟨"/" ++ name, String.append_assoc .., .inr rfl⟩

theorem isAbsolute_join (h : '/' ∉ name.toList) (hdirectory : directory.text ≠ "") :
    (directory.join name).isAbsolute = directory.isAbsolute := by
  obtain ⟨behind, htext, -⟩ := exists_text_join h directory
  have hne : directory.text.toList ≠ [] := fun hnil => hdirectory (String.toList_eq_nil_iff.mp hnil)
  unfold isAbsolute
  rw [htext, String.toList_append, List.head?_append_of_ne_nil _ hne]

theorem text_join_ne (h : '/' ∉ name.toList) (hdirectory : directory.text ≠ "") :
    (directory.join name).text ≠ "" := by
  obtain ⟨behind, htext, -⟩ := exists_text_join h directory
  rw [htext]
  exact fun hempty => hdirectory (String.append_eq_empty_iff.mp hempty).1

/-- **A joined path has one component more**, its name. -/
theorem components_join (h : FileSystem.IsEntryName name) (hdirectory : directory.text ≠ "") :
    (directory.join name).components = directory.components ++ [.name name] := by
  have hcomponent : componentOf? name = some (.name name) := by
    unfold componentOf?
    rw [if_neg h.not_idle, if_neg h.not_up]
  obtain ⟨above, hne, habove, hpieces⟩ := exists_pieces_join h.no_slash hdirectory
  obtain ⟨first, rest, rfl⟩ := List.exists_cons_of_ne_nil hne
  have hidle : componentOf? "" = none := rfl
  unfold components
  rw [hpieces, isAbsolute_join h.no_slash hdirectory]
  rcases habove with habove | habove
  · rw [habove]
    simp [hcomponent]
  · rw [habove]
    simp [hcomponent, hidle]

end Path

namespace FileSystem

variable {fs : FileSystem} {at_ goal other : Location} {name : String} {entry : Entry}

/-! ## Listings -/

theorem nameIn?_eq_some_iff : nameIn? at_ other = some name ↔ other = at_ ++ [name] := by
  unfold nameIn?
  rcases List.eq_nil_or_concat' other with rfl | ⟨above, last, rfl⟩
  · simp
  · simp only [List.reverse_concat, List.reverse_reverse, List.append_singleton_inj]
    split
    · rename_i habove
      simp [habove]
    · rename_i habove
      simp [habove]

/-- **What a directory holds** is listed. -/
theorem mem_children_iff (h : fs.IsTree) :
    (name, entry) ∈ fs.children at_ ↔ fs.entry? (at_ ++ [name]) = some entry := by
  have hne : at_ ++ [name] ≠ [] := List.append_ne_nil_of_right_ne_nil _ (List.cons_ne_nil _ _)
  unfold children entry?
  rw [List.mem_mergeSort, if_neg hne, ← OrderedMap.mem_entries_iff h.nodup, List.mem_filterMap]
  constructor
  · rintro ⟨⟨other, held⟩, hmem, hname⟩
    obtain ⟨_, hother, heq⟩ := Option.map_eq_some_iff.mp hname
    cases heq
    rwa [nameIn?_eq_some_iff.mp hother] at hmem
  · intro hmem
    exact ⟨_, hmem, Option.map_eq_some_iff.mpr ⟨name, nameIn?_eq_some_iff.mpr rfl, rfl⟩⟩

/-- **Names are listed in their order**, each once. -/
theorem pairwise_children (h : fs.IsTree) (at_ : Location) :
    (fs.children at_).Pairwise fun a b => a.1 < b.1 := by
  refine Text.pairwise_lt_mergeSort (List.pairwise_filterMap.mpr ?_)
  refine (List.pairwise_map.mp h.nodup).imp ?_
  rintro ⟨first, held⟩ ⟨second, other⟩ hne _ hfirst _ hsecond
  obtain ⟨name, hname, rfl⟩ := Option.map_eq_some_iff.mp hfirst
  obtain ⟨_, hother, rfl⟩ := Option.map_eq_some_iff.mp hsecond
  rintro rfl
  exact hne ((nameIn?_eq_some_iff.mp hname).trans (nameIn?_eq_some_iff.mp hother).symm)

theorem le_foldl_max (keys : List Location) : ∀ d : Nat,
    d ≤ keys.foldl (fun d at_ => max d at_.length) d ∧
      ∀ at_ ∈ keys, at_.length ≤ keys.foldl (fun d at_ => max d at_.length) d := by
  induction keys with
  | nil => exact fun d => ⟨le_rfl, nofun⟩
  | cons first rest ih =>
      intro d
      obtain ⟨hstart, hrest⟩ := ih (max d first.length)
      refine ⟨(le_max_left _ _).trans hstart, List.forall_mem_cons.mpr ⟨?_, hrest⟩⟩
      exact (le_max_right _ _).trans hstart

/-- **No location is deeper than the file system.** -/
theorem length_le_depth (h : fs.entry? at_ = some entry) : at_.length ≤ fs.depth := by
  unfold entry? at h
  split at h
  · rename_i hroot
    rw [hroot]
    exact Nat.zero_le _
  · refine (le_foldl_max fs.entries.keys 0).2 at_ (not_not.mp fun hmem => ?_)
    rw [OrderedMap.get?_eq_none_iff.mpr hmem] at h
    cases h

theorem IsTree.isEntryName (h : fs.IsTree) (hentry : fs.entry? (at_ ++ [name]) = some entry) :
    IsEntryName name := by
  unfold entry? at hentry
  rw [if_neg (List.append_ne_nil_of_right_ne_nil _ (List.cons_ne_nil _ _))] at hentry
  refine h.names (at_ ++ [name]) (not_not.mp fun hmem => ?_) name (by simp)
  rw [OrderedMap.get?_eq_none_iff.mpr hmem] at hentry
  cases hentry

/-! ## Subdirectories -/

section Subdirectories

variable {links : Nat} {pieces : List String} {directory : Path}

/-- **Where pieces lead** does not hang on a slash at their end. -/
theorem Leads.of_concat_empty (h : Leads fs links at_ (pieces ++ [""]) goal) :
    Leads fs links at_ pieces goal := by
  have hcut {piece : String} {rest pieces : List String} (hpiece : piece ≠ "")
      (hall : pieces ++ [""] = piece :: rest) :
      ∃ more, pieces = piece :: more ∧ more ++ [""] = rest := by
    obtain ⟨-, hlast⟩ | ⟨more, hpieces, hrest⟩ := List.append_eq_cons_iff.mp hall
    · exact absurd (List.cons.inj hlast).1.symm hpiece
    · exact ⟨more, hpieces, hrest.symm⟩
  generalize hall : pieces ++ [""] = all at h
  induction h generalizing pieces with
  | here => exact absurd hall (List.append_ne_nil_of_right_ne_nil _ (List.cons_ne_nil _ _))
  | stay hat hpiece h ih =>
      obtain ⟨rfl, hlast⟩ | ⟨more, rfl, rfl⟩ := List.append_eq_cons_iff.mp hall
      · obtain ⟨rfl, rfl⟩ := List.cons.inj hlast
        exact h
      · exact .stay hat hpiece (ih rfl)
  | up hat _ ih =>
      obtain ⟨more, rfl, rfl⟩ := hcut (by decide) hall
      exact .up hat (ih rfl)
  | enter hat hname hentry hlink _ ih =>
      obtain ⟨more, rfl, rfl⟩ := hcut (not_or.mp hname.not_idle).1 hall
      exact .enter hat hname hentry hlink (ih rfl)
  | jump hat hname hentry _ ih =>
      obtain ⟨more, rfl, rfl⟩ := hcut (not_or.mp hname.not_idle).1 hall
      exact .jump hat hname hentry (ih (List.append_assoc _ _ _))

/-- **One more name leads to the entry of a directory.** -/
theorem Leads.concat (h : Leads fs links at_ pieces goal) (hgoal : fs.isDirectoryAt goal = true)
    (hname : IsName name) (hentry : fs.entry? (goal ++ [name]) = some entry)
    (hlink : ∀ target, entry ≠ .link target) :
    Leads fs links at_ (pieces ++ [name]) (goal ++ [name]) := by
  induction h with
  | here links at_ => exact .enter hgoal hname hentry hlink (.here _ _)
  | stay hat hpiece _ ih => exact .stay hat hpiece (ih hgoal hentry)
  | up hat _ ih => exact .up hat (ih hgoal hentry)
  | enter hat hfirst hbelow hother _ ih => exact .enter hat hfirst hbelow hother (ih hgoal hentry)
  | jump hat hfirst hbelow _ ih =>
      have hmore := ih hgoal hentry
      rw [List.append_assoc] at hmore
      exact .jump hat hfirst hbelow hmore

theorem refused?_eq_none_iff {p : Path} :
    refused? p = none ↔ '\x00' ∉ p.text.toList ∧ p.text ≠ "" ∧ p.text.utf8ByteSize < pathLimit := by
  unfold refused?
  split
  · simp_all
  · split
    · simp_all
    · split <;> simp_all

theorem directory?_eq_some_iff {p : Path} :
    fs.directory? p = some at_ ↔ refused? p = none ∧
      Leads fs linkLimit (fs.startOf p) p.pieces at_ ∧ fs.isDirectoryAt at_ = true := by
  rw [← and_assoc, ← locate_eq_ok_iff]
  unfold directory?
  cases fs.locate p with
  | error fault => simp
  | ok found =>
      dsimp only
      split
      · rename_i hfound
        simp only [Option.some.injEq, Except.ok.injEq]
        exact ⟨fun heq => ⟨heq, heq ▸ hfound⟩, And.left⟩
      · rename_i hfound
        simp only [reduceCtorEq, Except.ok.injEq, false_iff, not_and]
        exact fun heq => heq ▸ hfound

theorem isDirectory_iff {p : Path} : fs.isDirectory p = true ↔ ∃ at_, fs.directory? p = some at_ := by
  unfold isDirectory directory? lookup isDirectoryAt
  cases fs.locate p with
  | error fault => simp
  | ok at_ =>
      cases hentry : fs.entry? at_ with
      | none => simp [hentry]
      | some entry => cases entry <;> simp [hentry]

/-- No directory is found under a path that is too long. -/
theorem directory?_of_pathLimit_le {p : Path} (h : pathLimit ≤ p.text.utf8ByteSize) :
    fs.directory? p = none := by
  rw [Option.eq_none_iff_forall_ne_some]
  intro at_ hfound
  have hfine := (directory?_eq_some_iff.mp hfound).1
  exact absurd (refused?_eq_none_iff.mp hfine).2.2 (not_lt.mpr h)

theorem text_ne_of_directory? (h : fs.directory? directory = some at_) : directory.text ≠ "" :=
  (refused?_eq_none_iff.mp (directory?_eq_some_iff.mp h).1).2.1

/-- **A subdirectory is found under its joined path**, if that is not too long. -/
theorem directory?_join (h : fs.directory? directory = some at_) (hname : IsEntryName name)
    (hentry : fs.entry? (at_ ++ [name]) = some .directory) :
    fs.directory? (directory.join name) =
      if pathLimit ≤ (directory.join name).text.utf8ByteSize then none
      else some (at_ ++ [name]) := by
  split
  · rename_i hlong
    exact directory?_of_pathLimit_le hlong
  · rename_i hshort
    obtain ⟨hfine, hleads, hat⟩ := directory?_eq_some_iff.mp h
    obtain ⟨hzero, hne, -⟩ := refused?_eq_none_iff.mp hfine
    refine directory?_eq_some_iff.mpr ⟨refused?_eq_none_iff.mpr ⟨?_, ?_, not_le.mp hshort⟩, ?_, ?_⟩
    · obtain ⟨behind, htext, rfl | rfl⟩ := Path.exists_text_join hname.no_slash directory
      · simp [htext, hzero, hname.no_zero]
      · simp [htext, hzero, hname.no_zero]
    · exact Path.text_join_ne hname.no_slash hne
    · obtain ⟨above, -, habove, hpieces⟩ := Path.exists_pieces_join hname.no_slash hne
      have hstart : fs.startOf (directory.join name) = fs.startOf directory := by
        unfold startOf
        rw [Path.isAbsolute_join hname.no_slash hne]
      have hleads' : Leads fs linkLimit (fs.startOf directory) above at_ := by
        rcases habove with habove | habove
        · rwa [habove] at hleads
        · rw [habove] at hleads
          exact hleads.of_concat_empty
      rw [hstart, hpieces]
      exact hleads'.concat hat hname.toIsName hentry nofun
    · exact decide_eq_true hentry

end Subdirectories

end FileSystem

end BatchCompiler

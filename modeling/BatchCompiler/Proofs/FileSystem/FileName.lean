import BatchCompiler.Proofs.FileSystem.Writing
import BatchCompiler.Proofs.Text.Split

/-!
# File names

A name without a slash that is joined to a directory is the file name of the path, unless it stands for
no entry; and then the path leads to no file.

## Main statements

* `Path.getLast?_pieces_join`, `Path.getLast?_components_join` — what comes last in a joined path
* `FileSystem.fileName?_of_isFile` — the file name of a joined path that leads to a file
* `Path.cutName_eq_some_iff` — a file name cut at its last dot
-/

namespace BatchCompiler

namespace Path

variable {directory : Path} {name stem extension : String}

/-! ## Joined paths -/

theorem head?_ne_slash (h : '/' ∉ name.toList) : name.toList.head? ≠ some '/' :=
  fun hhead => h (List.mem_of_mem_head? hhead)

/-- **A name joined to a directory** is one more piece behind those of the directory, whose slash at the
end is no piece of its own. -/
theorem exists_pieces_join (h : '/' ∉ name.toList) (hdirectory : directory.text ≠ "") :
    ∃ above, above ≠ [] ∧ (directory.pieces = above ∨ directory.pieces = above ++ [""]) ∧
      (directory.join name).pieces = above ++ [name] := by
  have hname : Text.pieces (· = '/') name = [name] :=
    Text.pieces_of_not fun c mem => decide_eq_false (by rintro rfl; exact h mem)
  have hbehind (above behind whole : String)
      (hwhole : whole.toList = above.toList ++ '/' :: behind.toList) :
      Text.pieces (· = '/') whole =
        Text.pieces (· = '/') above ++ Text.pieces (· = '/') behind :=
    Text.pieces_append (by simp) hwhole
  unfold join pieces
  rw [if_neg (head?_ne_slash h)]
  split
  · rename_i hend
    -- The directory ends with the slash in front of the name.
    obtain ⟨above, habove⟩ := List.getLast?_eq_some_iff.mp (hend.resolve_left hdirectory)
    refine ⟨Text.pieces (· = '/') (String.ofList above), Text.pieces_ne_nil _, .inr ?_, ?_⟩
    · exact hbehind _ "" _ (by simp [habove])
    · rw [hbehind (String.ofList above) name _ (by simp [habove]), hname]
  · refine ⟨Text.pieces (· = '/') directory.text, Text.pieces_ne_nil _, .inl rfl, ?_⟩
    rw [hbehind directory.text name _ (by simp), hname]

/-- **A joined path** is its last name alone, or has pieces above it. -/
theorem pieces_join (h : '/' ∉ name.toList) (directory : Path) :
    (directory.join name).text = name ∨
      ∃ above, above ≠ [] ∧ (directory.join name).pieces = above ++ [name] := by
  by_cases hdirectory : directory.text = ""
  · left
    unfold join
    rw [if_neg (head?_ne_slash h), if_pos (.inl hdirectory), hdirectory]
    exact String.empty_append
  · obtain ⟨above, hne, -, hpieces⟩ := exists_pieces_join h hdirectory
    exact .inr ⟨above, hne, hpieces⟩

theorem pieces_of_text_eq (h : '/' ∉ name.toList) {p : Path} (htext : p.text = name) :
    p.pieces = [name] := by
  unfold pieces
  rw [htext]
  exact Text.pieces_of_not fun c mem => decide_eq_false (by rintro rfl; exact h mem)

theorem getLast?_pieces_join (h : '/' ∉ name.toList) (directory : Path) :
    (directory.join name).pieces.getLast? = some name := by
  obtain htext | ⟨above, -, hpieces⟩ := pieces_join h directory
  · rw [pieces_of_text_eq h htext]
    rfl
  · rw [hpieces, List.getLast?_concat]

/-- **The last component of a joined path** is that of the name, if the name stands for one. -/
theorem getLast?_components_join (h : '/' ∉ name.toList) (directory : Path) {component : Component}
    (hcomponent : componentOf? name = some component) :
    (directory.join name).components.getLast? = some component := by
  unfold components
  obtain htext | ⟨above, hne, hpieces⟩ := pieces_join h directory
  · have hrelative : (directory.join name).isAbsolute = false := by
      unfold isAbsolute
      rw [htext]
      exact decide_eq_false fun hhead => h (List.mem_of_mem_head? hhead)
    have hcurrent : name ≠ "." := by
      rintro rfl
      cases hcomponent
    rw [pieces_of_text_eq h htext]
    dsimp only
    rw [if_neg (Bool.eq_false_iff.mp hrelative), if_neg hcurrent, hcomponent]
    rfl
  · obtain ⟨first, rest, rfl⟩ := List.exists_cons_of_ne_nil hne
    rw [hpieces, List.cons_append]
    dsimp only
    rw [List.filterMap_append, ← List.append_assoc]
    simp [hcomponent]

theorem fileName?_join (h : '/' ∉ name.toList) (directory : Path)
    (hcomponent : componentOf? name = some (.name name)) :
    (directory.join name).fileName? = some name := by
  unfold fileName?
  rw [getLast?_components_join h directory hcomponent]

/-! ## Names cut at their last dot -/

theorem cutAtLast?_dot :
    Text.cutAtLast? '.' name = some (stem, extension) ↔
      name = stem ++ "." ++ extension ∧ '.' ∉ extension.toList := by
  rw [Text.cutAtLast?_eq_some_iff, ← String.toList_inj]
  simp

/-- **A file name cut at its last dot**: something stands ahead of it. -/
theorem cutName_eq_some_iff :
    cutName name = (stem, some extension) ↔
      name = stem ++ "." ++ extension ∧ stem ≠ "" ∧ '.' ∉ extension.toList := by
  unfold cutName
  constructor
  · intro h
    split at h
    · rename_i ahead behind hfound
      split at h
      · cases h
      · rename_i hstem
        cases h
        obtain ⟨hname, hextension⟩ := cutAtLast?_dot.mp hfound
        exact ⟨hname, hstem, hextension⟩
    · cases h
  · rintro ⟨hname, hstem, hextension⟩
    rw [cutAtLast?_dot.mpr ⟨hname, hextension⟩]
    dsimp only
    rw [if_neg hstem]

end Path

/-! ## Paths to files -/

namespace FileSystem

variable {fs : FileSystem} {links : Nat} {at_ goal : Location} {pieces : List String}
  {name : String}

/-- **What is followed by a slash or a dot is a directory.** -/
theorem Leads.isDirectoryAt_of_idle (h : Leads fs links at_ pieces goal) {last : String}
    (hlast : pieces.getLast? = some last) (hidle : last = "" ∨ last = ".") :
    fs.isDirectoryAt goal = true := by
  induction h with
  | here links at_ => cases hlast
  | @stay links at_ goal piece rest hat hpiece h ih =>
      rcases eq_or_ne rest [] with rfl | hrest
      · cases h
        exact hat
      · exact ih (by rwa [List.getLast?_cons_of_ne_nil hrest] at hlast)
  | @up links at_ goal rest hat h ih =>
      rcases eq_or_ne rest [] with rfl | hrest
      · cases hlast
        simp at hidle
      · exact ih (by rwa [List.getLast?_cons_of_ne_nil hrest] at hlast)
  | @enter links at_ goal piece rest entry hat hname hentry hlink h ih =>
      rcases eq_or_ne rest [] with rfl | hrest
      · cases hlast
        exact absurd hidle hname.not_idle
      · exact ih (by rwa [List.getLast?_cons_of_ne_nil hrest] at hlast)
  | @jump links at_ goal piece rest target hat hname hentry h ih =>
      rcases eq_or_ne rest [] with rfl | hrest
      · cases hlast
        exact absurd hidle hname.not_idle
      · rw [List.getLast?_cons_of_ne_nil hrest] at hlast
        exact ih (by rwa [List.getLast?_append_of_ne_nil _ hrest])

/-- **A file is where its path leads.** -/
theorem isFile_iff {p : Path} :
    fs.isFile p = true ↔ refused? p = none ∧ ∃ goal bytes,
      Leads fs linkLimit (fs.startOf p) p.pieces goal ∧ fs.entry? goal = some (.file bytes) := by
  have hlookup : fs.isFile p = true ↔ ∃ bytes, fs.lookup p = .ok (.file bytes) := by
    unfold isFile
    split
    · simp_all
    · simp_all
  simp only [hlookup, lookup_eq_ok_iff, locate_eq_ok_iff]
  constructor
  · rintro ⟨bytes, goal, ⟨hfine, hleads⟩, hentry⟩
    exact ⟨hfine, goal, bytes, hleads, hentry⟩
  · rintro ⟨hfine, goal, bytes, hleads, hentry⟩
    exact ⟨bytes, goal, ⟨hfine, hleads⟩, hentry⟩

/-- **No file has a path with a slash or a dot at its end.** -/
theorem not_idle_of_isFile {p : Path} (h : fs.isFile p = true) {last : String}
    (hlast : p.pieces.getLast? = some last) : ¬(last = "" ∨ last = ".") := by
  intro hidle
  obtain ⟨-, goal, bytes, hleads, hentry⟩ := isFile_iff.mp h
  have hdirectory := of_decide_eq_true (hleads.isDirectoryAt_of_idle hlast hidle)
  cases hentry.symm.trans hdirectory

/-- **The file name of a joined path that leads to a file** is what was joined, unless that goes up. -/
theorem fileName?_of_isFile (hslash : '/' ∉ name.toList) {directory : Path}
    (h : fs.isFile (directory.join name) = true) :
    (directory.join name).fileName? = if name = ".." then none else some name := by
  have hidle := not_idle_of_isFile h (Path.getLast?_pieces_join hslash directory)
  split
  · rename_i hup
    have hcomponent : Path.componentOf? name = some .parent := by
      unfold Path.componentOf?
      rw [if_neg hidle, if_pos hup]
    unfold Path.fileName?
    rw [Path.getLast?_components_join hslash directory hcomponent]
  · rename_i hup
    have hcomponent : Path.componentOf? name = some (.name name) := by
      unfold Path.componentOf?
      rw [if_neg hidle, if_neg hup]
    exact Path.fileName?_join hslash directory hcomponent

end FileSystem

end BatchCompiler

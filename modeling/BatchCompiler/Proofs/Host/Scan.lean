import Mathlib.Data.List.Nodup
import BatchCompiler.Host.Collaborators

/-!
# Scanning a file into a tree

What a file declares can be read off its lines.  Entered into a tree, a declaration is appended unless
its name is taken, and then there is an error; a `Main` method makes a candidate if it stands behind a
class or struct of the same file.  Nothing that is in the tree already is changed.

## Main definitions

* `Host.scannedLines` — the lines of a file that are scanned
* `Host.DeclarationMatch`, `Host.matchesOf` — the declarations that stand in a file
* `Host.Enters` — what becomes of declarations that are entered one after another
* `Host.Adds` — what scanning a file adds to a tree

## Main statements

* `Host.ScanState.Added.line`, `Host.ScanState.Added.lines` — one line, and many
* `Host.exists_adds` — a file
-/

namespace BatchCompiler

/-- A tree with declarations and candidates added behind its own. -/
def ProgramTree.extend (t : ProgramTree) (added : List TypeDeclaration) (found : List EntryPoint) :
    ProgramTree :=
  { t with
    declarations := ⟨t.declarations.entries ++ added.map fun d => (d.name, d)⟩
    candidates := t.candidates ++ found }

theorem ProgramTree.keys_extend (t : ProgramTree) (added : List TypeDeclaration)
    (found : List EntryPoint) :
    (t.extend added found).declarations.keys =
      t.declarations.keys ++ added.map TypeDeclaration.name := by
  unfold extend OrderedMap.keys
  rw [List.map_append, List.map_map]
  rfl

namespace Host

/-! ## What stands in a file -/

/-- Lines up to the first behind which fewer braces are open than none. -/
def scannedFrom (depth : Int) : List (List Char) → List (List Char)
  | [] => []
  | text :: rest =>
      text :: if depth + braceBalance text < 0 then []
        else scannedFrom (depth + braceBalance text) rest

/-- **The lines of a file that are scanned**: those up to the first at which more braces have been
closed than opened, or all. -/
def scannedLines (text : String) : List (List Char) := scannedFrom 0 (Text.lines text)

/-- **The namespace that lines leave open**: the last one that they open. -/
def spaceBehind (lines : List (List Char)) : Option String := (lines.filterMap namespaceOf?).getLast?

/-- **A declaration as it stands in a file**, with the namespace that is open there. -/
structure DeclarationMatch where
  space : Option String
  kind : DeclarationKind
  name : String
  location : SourceLocation
deriving DecidableEq, Repr

namespace DeclarationMatch

/-- The qualified name. -/
def qualified (m : DeclarationMatch) : String :=
  match m.space with
  | some space => space ++ "." ++ m.name
  | none => m.name

/-- The declaration in the table. -/
def declaration (m : DeclarationMatch) : TypeDeclaration := ⟨m.qualified, m.kind, m.location⟩

/-- The error when the name is taken. -/
def duplicate (m : DeclarationMatch) : Report :=
  .errorAt 101 m.location ("The namespace `" ++ m.space.getD "global::" ++
    "' already contains a definition for `" ++ m.name ++ "'")

end DeclarationMatch

/-- A declaration found on a line. -/
def matchAt (space : Option String) (path : Path) (line : Nat)
    (found : DeclarationKind × List Char × Nat) : DeclarationMatch :=
  ⟨space, found.1, String.ofList found.2.1, ⟨path, line, found.2.2⟩⟩

/-- The declarations of lines that stand behind others. -/
def matchesBehind (path : Path) (passed : List (List Char)) :
    List (List Char) → List DeclarationMatch
  | [] => []
  | text :: rest =>
      (declarationsOf text).map (matchAt (spaceBehind (passed ++ [text])) path (passed.length + 1)) ++
        matchesBehind path (passed ++ [text]) rest

/-- **The declarations that stand in a file**, as far as it is scanned. -/
def matchesOf (path : Path) (text : String) : List DeclarationMatch :=
  matchesBehind path [] (scannedLines text)

/-- **Declarations are entered one after another** behind some names: one whose name is taken is
reported, and the others are added. -/
inductive Enters : List String → List DeclarationMatch → List TypeDeclaration → List Report → Prop
  | nil {names : List String} : Enters names [] [] []
  | add {names : List String} {m : DeclarationMatch} {ms : List DeclarationMatch}
      {added : List TypeDeclaration} {duplicates : List Report} (h : m.qualified ∉ names)
      (hrest : Enters (names ++ [m.qualified]) ms added duplicates) :
      Enters names (m :: ms) (m.declaration :: added) duplicates
  | duplicate {names : List String} {m : DeclarationMatch} {ms : List DeclarationMatch}
      {added : List TypeDeclaration} {duplicates : List Report} (h : m.qualified ∈ names)
      (hrest : Enters names ms added duplicates) :
      Enters names (m :: ms) added (m.duplicate :: duplicates)

section Places

variable {path : Path} {names : List String} {ms more : List DeclarationMatch}
  {added others : List TypeDeclaration} {duplicates again : List Report}

theorem Enters.append (h : Enters names ms added duplicates)
    (h' : Enters (names ++ added.map TypeDeclaration.name) more others again) :
    Enters names (ms ++ more) (added ++ others) (duplicates ++ again) := by
  induction h with
  | nil => simpa using h'
  | add hnew _ ih =>
      refine .add hnew (ih ?_)
      rw [List.append_assoc]
      exact h'
  | duplicate htaken _ ih => exact .duplicate htaken (ih h')

/-- What is added stands in the file. -/
theorem Enters.mem (h : Enters names ms added duplicates) {d : TypeDeclaration} (mem : d ∈ added) :
    ∃ m ∈ ms, m.declaration = d := by
  induction h with
  | nil => cases mem
  | add _ _ ih =>
      obtain rfl | mem := List.mem_cons.mp mem
      · exact ⟨_, List.mem_cons_self, rfl⟩
      · obtain ⟨m, hm, hd⟩ := ih mem
        exact ⟨m, List.mem_cons_of_mem _ hm, hd⟩
  | duplicate _ _ ih =>
      obtain ⟨m, hm, hd⟩ := ih mem
      exact ⟨m, List.mem_cons_of_mem _ hm, hd⟩

/-- **No name is added that is taken.** -/
theorem Enters.nodup (h : Enters names ms added duplicates) (hnames : names.Nodup) :
    (names ++ added.map TypeDeclaration.name).Nodup := by
  induction h with
  | nil => simpa using hnames
  | @add names m _ _ _ hnew _ ih =>
      have hmore : (names ++ [m.qualified]).Nodup := by
        rw [List.nodup_append]
        refine ⟨hnames, List.nodup_singleton _, ?_⟩
        rintro a ha b hb rfl
        exact hnew (List.mem_singleton.mp hb ▸ ha)
      have hall := ih hmore
      rw [List.append_assoc] at hall
      exact hall
  | duplicate _ _ ih => exact ih hnames

/-- Columns count from one. -/
theorem column_pos {skip passed : Nat} {afterWordChar : Bool} {line : List Char}
    {found : DeclarationKind × List Char × Nat}
    (mem : found ∈ declarationsFrom skip passed afterWordChar line) : 1 ≤ found.2.2 := by
  induction line generalizing skip passed afterWordChar with
  | nil => cases mem
  | cons c rest ih =>
      cases skip with
      | succ skip => exact ih mem
      | zero =>
          rw [declarationsFrom] at mem
          split at mem
          · exact ih mem
          · obtain rfl | mem := List.mem_cons.mp mem
            · exact Nat.le_add_left 1 _
            · exact ih mem

theorem length_scannedFrom_le (depth : Int) (lines : List (List Char)) :
    (scannedFrom depth lines).length ≤ lines.length := by
  induction lines generalizing depth with
  | nil => exact Nat.le_refl 0
  | cons text rest ih =>
      rw [scannedFrom, List.length_cons, List.length_cons]
      split
      · exact Nat.succ_le_succ (Nat.zero_le _)
      · exact Nat.succ_le_succ (ih _)

theorem place_of_mem_matchesBehind {passed lines : List (List Char)} {m : DeclarationMatch}
    (mem : m ∈ matchesBehind path passed lines) :
    m.location.path = path ∧ 1 ≤ m.location.line ∧
      m.location.line ≤ passed.length + lines.length ∧ 1 ≤ m.location.column := by
  induction lines generalizing passed with
  | nil => cases mem
  | cons text rest ih =>
      rw [matchesBehind, List.mem_append] at mem
      rw [List.length_cons]
      rcases mem with mem | mem
      · obtain ⟨found, hfound, rfl⟩ := List.mem_map.mp mem
        have hcolumn := column_pos hfound
        refine ⟨rfl, Nat.le_add_left 1 _, ?_, hcolumn⟩
        show passed.length + 1 ≤ _
        omega
      · obtain ⟨hpath, hline, hlast, hcolumn⟩ := ih mem
        rw [List.length_append, List.length_singleton] at hlast
        refine ⟨hpath, hline, ?_, hcolumn⟩
        omega

/-- **Where the declarations of a file stand.** -/
theorem place_of_mem_matchesOf {text : String} {m : DeclarationMatch}
    (mem : m ∈ matchesOf path text) :
    m.location.path = path ∧ 1 ≤ m.location.line ∧
      m.location.line ≤ (Text.lines text).length ∧ 1 ≤ m.location.column := by
  obtain ⟨hpath, hline, hlast, hcolumn⟩ := place_of_mem_matchesBehind mem
  have hscanned : (scannedLines text).length ≤ (Text.lines text).length :=
    length_scannedFrom_le 0 (Text.lines text)
  rw [List.length_nil, Nat.zero_add] at hlast
  exact ⟨hpath, hline, Nat.le_trans hlast hscanned, hcolumn⟩

end Places

/-! ## Scanning -/

/-- A report that a name is taken. -/
def isDuplicate (r : Report) : Bool := r.diagnostic.code = 101

namespace ScanState

/-- **What scanning has added** to a tree so far, and which duplicates it has reported; the open type is
one that has been added and can have a `Main` method. -/
structure Added (t : ProgramTree) (added : List TypeDeclaration) (found : List EntryPoint)
    (duplicates : List Report) (s : ScanState) : Prop where
  tree : s.tree = t.extend added found
  duplicates : s.reports.filter isDuplicate = duplicates
  current : ∀ type, s.current = some type →
    ∃ d ∈ added, d.name = type ∧ d.kind.canHostEntryPoint = true
  found : ∀ candidate ∈ found,
    ∃ d ∈ added, d.name = candidate.declaringType ∧ d.kind.canHostEntryPoint = true

variable {t : ProgramTree} {added : List TypeDeclaration} {found : List EntryPoint}
  {duplicates : List Report} {s : ScanState} {path : Path} {number : Nat}

/-- The names that are taken. -/
theorem Added.keys (h : Added t added found duplicates s) :
    s.tree.declarations.keys = t.declarations.keys ++ added.map TypeDeclaration.name := by
  rw [h.tree, ProgramTree.keys_extend]

/-- A declaration as it stands in the file is entered. -/
theorem declare_eq (s : ScanState) (path : Path) (number : Nat)
    (f : DeclarationKind × List Char × Nat) (m : DeclarationMatch)
    (hm : matchAt s.space path number f = m) :
    s.declare path number f =
      if s.tree.declarations.contains m.qualified = true then
        { s with reports := s.reports ++ [m.duplicate] }
      else
        { s with
          tree := { s.tree with declarations := s.tree.declarations.put m.qualified m.declaration }
          current := if m.kind.canHostEntryPoint then some m.qualified else s.current
          log := s.log ++
            [⟨.trace, .scanner, "declaration " ++ m.kind.logName ++ " " ++ m.qualified⟩] } := by
  subst hm
  rfl

theorem declare_kept (s : ScanState) (path : Path) (number : Nat)
    (f : DeclarationKind × List Char × Nat) :
    (s.declare path number f).space = s.space ∧ (s.declare path number f).depth = s.depth := by
  rw [s.declare_eq path number f _ rfl]
  split
  · exact ⟨rfl, rfl⟩
  · exact ⟨rfl, rfl⟩

theorem contains_iff (s : ScanState) (name : String) :
    s.tree.declarations.contains name = true ↔ name ∈ s.tree.declarations.keys := by
  unfold OrderedMap.contains
  rw [← not_iff_not, ← OrderedMap.get?_eq_none_iff, Bool.not_eq_true, Option.isSome_eq_false_iff,
    Option.isNone_iff_eq_none]

/-- **A declaration whose name is free** is added. -/
theorem Added.declare_of_new (h : Added t added found duplicates s)
    (f : DeclarationKind × List Char × Nat) {m : DeclarationMatch}
    (hm : matchAt s.space path number f = m)
    (hnew : m.qualified ∉ s.tree.declarations.keys) :
    Added t (added ++ [m.declaration]) found duplicates (s.declare path number f) := by
  rw [s.declare_eq path number f m hm, if_neg (mt (contains_iff s _).mp hnew)]
  have hput : (s.tree.declarations.put m.qualified m.declaration).entries =
      t.declarations.entries ++ (added ++ [m.declaration]).map fun d => (d.name, d) := by
    unfold OrderedMap.put
    rw [OrderedMap.putEntry_of_not_mem hnew, h.tree, List.map_append]
    exact List.append_assoc _ _ _
  refine ⟨?_, h.duplicates, ?_, ?_⟩
  · show { s.tree with declarations := s.tree.declarations.put m.qualified m.declaration } = _
    unfold ProgramTree.extend
    rw [← hput, h.tree]
    rfl
  · intro type htype
    dsimp only at htype
    split at htype
    · rename_i hhost
      cases htype
      exact ⟨m.declaration, List.mem_append_right _ (List.mem_singleton_self _), rfl, hhost⟩
    · obtain ⟨d, mem, hd⟩ := h.current type htype
      exact ⟨d, List.mem_append_left _ mem, hd⟩
  · intro candidate hcandidate
    obtain ⟨d, mem, hd⟩ := h.found candidate hcandidate
    exact ⟨d, List.mem_append_left _ mem, hd⟩

/-- **A declaration whose name is taken** is reported. -/
theorem Added.declare_of_taken (h : Added t added found duplicates s)
    (f : DeclarationKind × List Char × Nat) {m : DeclarationMatch}
    (hm : matchAt s.space path number f = m) (htaken : m.qualified ∈ s.tree.declarations.keys) :
    Added t added found (duplicates ++ [m.duplicate]) (s.declare path number f) := by
  rw [s.declare_eq path number f m hm, if_pos ((contains_iff s _).mpr htaken)]
  refine ⟨h.tree, ?_, h.current, h.found⟩
  rw [List.filter_append, h.duplicates]
  rfl

/-- **The declarations of a line**, one after another. -/
theorem Added.declareAll (h : Added t added found duplicates s) (path : Path) (number : Nat)
    (fs : List (DeclarationKind × List Char × Nat)) :
    ∃ more again s', fs.foldl (fun s f => s.declare path number f) s = s' ∧
      Enters (t.declarations.keys ++ added.map TypeDeclaration.name)
        (fs.map (matchAt s.space path number)) more again ∧
      Added t (added ++ more) found (duplicates ++ again) s' ∧ s'.space = s.space ∧
      s'.depth = s.depth := by
  induction fs generalizing s added duplicates with
  | nil =>
      refine ⟨[], [], s, rfl, .nil, ?_, rfl, rfl⟩
      rwa [List.append_nil, List.append_nil]
  | cons f rest ih =>
      obtain ⟨hspace, hdepth⟩ := s.declare_kept path number f
      rw [List.foldl_cons, List.map_cons, ← h.keys]
      -- Names that earlier declarations of the line have taken are taken for the later ones.
      by_cases htaken : (matchAt s.space path number f).qualified ∈ s.tree.declarations.keys
      · obtain ⟨more, again, s', hfold, henters, hadded, hspace', hdepth'⟩ :=
          ih (h.declare_of_taken f rfl htaken)
        rw [hspace, ← h.keys] at henters
        rw [List.append_assoc] at hadded
        exact ⟨more, _, s', hfold, .duplicate htaken henters, hadded, hspace'.trans hspace,
          hdepth'.trans hdepth⟩
      · obtain ⟨more, again, s', hfold, henters, hadded, hspace', hdepth'⟩ :=
          ih (h.declare_of_new f rfl htaken)
        rw [hspace, List.map_append, ← List.append_assoc, ← h.keys] at henters
        rw [List.append_assoc] at hadded
        exact ⟨_, again, s', hfold, .add htaken henters, hadded, hspace'.trans hspace,
          hdepth'.trans hdepth⟩

/-- **A `Main` method** is a candidate of the open type, or out of place. -/
theorem Added.enterMain (h : Added t added found duplicates s) (path : Path) (number : Nat) :
    ∃ others, Added t added (found ++ others) duplicates (s.enterMain path number) ∧
      (s.enterMain path number).space = s.space ∧ (s.enterMain path number).depth = s.depth := by
  unfold ScanState.enterMain
  split
  · rename_i type htype
    refine ⟨[⟨type, "Main"⟩], ⟨?_, h.duplicates, h.current, ?_⟩, rfl, rfl⟩
    · dsimp only
      rw [h.tree]
      unfold ProgramTree.extend
      dsimp only
      rw [List.append_assoc]
    · intro candidate hcandidate
      obtain mem | mem := List.mem_append.mp hcandidate
      · exact h.found candidate mem
      · obtain rfl := List.mem_singleton.mp mem
        exact h.current type htype
  · refine ⟨[], ⟨?_, ?_, h.current, ?_⟩, rfl, rfl⟩
    · rw [List.append_nil]
      exact h.tree
    · rw [List.filter_append, h.duplicates]
      exact List.append_nil _
    · rw [List.append_nil]
      exact h.found

/-- **One line**: what it declares is entered, in the namespace that it opens or finds open. -/
theorem Added.line (h : Added t added found duplicates s) (path : Path) (number : Nat)
    (text : List Char) :
    ∃ more others again,
      Enters (t.declarations.keys ++ added.map TypeDeclaration.name)
        ((declarationsOf text).map
          (matchAt ((namespaceOf? text).orElse fun _ => s.space) path number)) more again ∧
      Added t (added ++ more) (found ++ others) (duplicates ++ again) (s.line path number text) ∧
      (s.line path number text).space = (namespaceOf? text).orElse (fun _ => s.space) ∧
      (s.line path number text).depth = s.depth + braceBalance text := by
  have hopened : Added t added found duplicates
      { s with space := (namespaceOf? text).orElse fun _ => s.space } :=
    ⟨h.tree, h.duplicates, h.current, h.found⟩
  obtain ⟨more, again, s₁, hfold, henters, hadded, hspace, hdepth⟩ :=
    hopened.declareAll path number (declarationsOf text)
  have hline : s.line path number text =
      let s₂ := if hasMain text then s₁.enterMain path number else s₁
      { s₂ with depth := s₂.depth + braceBalance text } := by
    rw [← hfold]
    rfl
  rw [hline]
  dsimp only
  by_cases hmain : hasMain text = true
  · obtain ⟨others, hadded', hspace', hdepth'⟩ := hadded.enterMain path number
    rw [if_pos hmain]
    refine ⟨more, others, again, henters,
      ⟨hadded'.tree, hadded'.duplicates, hadded'.current, hadded'.found⟩, hspace'.trans hspace, ?_⟩
    rw [hdepth', hdepth]
  · rw [if_neg hmain]
    refine ⟨more, [], again, henters, ?_, hspace, ?_⟩
    · rw [List.append_nil]
      exact ⟨hadded.tree, hadded.duplicates, hadded.current, hadded.found⟩
    · rw [hdepth]

/-- The namespace behind one more line. -/
theorem spaceBehind_concat (passed : List (List Char)) (text : List Char) :
    spaceBehind (passed ++ [text]) = (namespaceOf? text).orElse fun _ => spaceBehind passed := by
  unfold spaceBehind
  rw [List.filterMap_append]
  cases hspace : namespaceOf? text with
  | none => simp [hspace]
  | some space => simp [hspace]

/-- **Many lines**, behind others: what they declare is entered, as far as they are scanned. -/
theorem Added.lines (h : Added t added found duplicates s) (path : Path) (passed : List (List Char))
    (hspace : s.space = spaceBehind passed) (texts : List (List Char)) :
    ∃ more others again,
      Enters (t.declarations.keys ++ added.map TypeDeclaration.name)
        (matchesBehind path passed (scannedFrom s.depth texts)) more again ∧
      Added t (added ++ more) (found ++ others) (duplicates ++ again)
        (s.lines path (passed.length + 1) texts).1 := by
  induction texts generalizing s passed added found duplicates with
  | nil =>
      refine ⟨[], [], [], .nil, ?_⟩
      rw [List.append_nil, List.append_nil, List.append_nil]
      exact h
  | cons text rest ih =>
      obtain ⟨more, others, again, henters, hadded, hopened, hdepth⟩ :=
        h.line path (passed.length + 1) text
      rw [hspace, ← spaceBehind_concat] at henters hopened
      rw [ScanState.lines, scannedFrom, matchesBehind, ← hdepth]
      by_cases hunbalanced : (s.line path (passed.length + 1) text).depth < 0
      · -- The scan is given up behind this line, which has been taken in all the same.
        rw [if_pos hunbalanced, if_pos hunbalanced, matchesBehind, List.append_nil]
        exact ⟨more, others, again, henters, hadded⟩
      · rw [if_neg hunbalanced, if_neg hunbalanced]
        obtain ⟨more', others', again', henters', hadded'⟩ := ih hadded _ hopened
        rw [List.length_append, List.length_singleton] at hadded'
        rw [List.map_append, ← List.append_assoc] at henters'
        refine ⟨more ++ more', others ++ others', again ++ again', henters.append henters', ?_⟩
        rw [← List.append_assoc, ← List.append_assoc, ← List.append_assoc]
        exact hadded'

end ScanState

/-! ## A file -/

/-- **What scanning a file adds to a tree**: the declarations that stand in it, unless their names are
taken, for which there is one error each; and candidates of classes and structs among them. -/
structure Adds (path : Path) (text : String) (t : ProgramTree) (added : List TypeDeclaration)
    (found : List EntryPoint) (duplicates : List Report) : Prop where
  tree : (scanText path text t).1.tree = t.extend added found
  entered : Enters t.declarations.keys (matchesOf path text) added duplicates
  reported : (scanText path text t).1.reports.filter (·.diagnostic.code = 101) = duplicates
  place : ∀ d ∈ added, d.location.path = path ∧ 1 ≤ d.location.line ∧
    d.location.line ≤ (Text.lines text).length ∧ 1 ≤ d.location.column
  host : ∀ candidate ∈ found, ∃ d ∈ added,
    d.name = candidate.declaringType ∧ (d.kind = .class ∨ d.kind = .struct)

theorem canHostEntryPoint_iff {kind : DeclarationKind} :
    kind.canHostEntryPoint = true ↔ kind = .class ∨ kind = .struct := by
  cases kind <;> decide

theorem tree_scanText (path : Path) (text : String) (t : ProgramTree) :
    (scanText path text t).1.tree =
      (ScanState.lines path 1 { tree := t } (Text.lines text)).1.tree := by
  unfold scanText
  dsimp only
  rcases ScanState.lines path 1 { tree := t } (Text.lines text) with ⟨s, _ | number⟩
  · rfl
  · rfl

/-- What is reported of a file as a whole is no duplicate. -/
theorem filter_reports_scanText (path : Path) (text : String) (t : ProgramTree) :
    (scanText path text t).1.reports.filter isDuplicate =
      (ScanState.lines path 1 { tree := t } (Text.lines text)).1.reports.filter isDuplicate := by
  unfold scanText
  dsimp only
  rcases ScanState.lines path 1 { tree := t } (Text.lines text) with ⟨s, _ | number⟩
  · dsimp only
    rw [List.filter_append]
    split
    · exact List.append_nil _
    · exact List.append_nil _
  · rfl

/-- **A file is scanned**, to its end or not. -/
theorem exists_adds (path : Path) (text : String) (t : ProgramTree) :
    ∃ added found duplicates, Adds path text t added found duplicates := by
  have hstart : ScanState.Added t [] [] [] { tree := t } := by
    refine ⟨?_, rfl, nofun, nofun⟩
    unfold ProgramTree.extend
    rw [List.map_nil, List.append_nil, List.append_nil]
  obtain ⟨added, found, duplicates, henters, hadded⟩ :=
    hstart.lines path [] rfl (Text.lines text)
  rw [List.map_nil, List.append_nil] at henters
  rw [List.nil_append, List.nil_append, List.nil_append] at hadded
  refine ⟨added, found, duplicates, ?_, henters, ?_, ?_, ?_⟩
  · rw [← hadded.tree, tree_scanText]
    rfl
  · rw [← hadded.duplicates]
    exact filter_reports_scanText path text t
  · intro d mem
    obtain ⟨m, hm, rfl⟩ := henters.mem mem
    exact place_of_mem_matchesOf hm
  · intro candidate mem
    obtain ⟨d, hd, hname, hhost⟩ := hadded.found candidate mem
    exact ⟨d, hd, hname, canHostEntryPoint_iff.mp hhost⟩

/-! ## The frontend -/

end Host

end BatchCompiler

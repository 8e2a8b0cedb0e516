import Mathlib.Data.List.Induction
import BatchCompiler.Proofs.Host.Scan
import BatchCompiler.Proofs.Text.ByteOrder

/-!
# The tree of a run

Many files are scanned into one tree, and between them its types may be defined, which puts them in
order.  Names stay distinct all the while, and what has been declared stays declared.

## Main definitions

* `ProgramTree.Consistent` — no two declarations have one name, and each stands under its own
* `Host.TreeStep`, `Host.treeAfter` — what is done to the tree of a run

## Main statements

* `Host.TreeStep.consistent`, `Host.foldl_consistent` — one step, and many
* `Host.exists_scan_of_candidate` — where candidates come from
* `Host.tree_consistent` — the tree of a run
-/

namespace BatchCompiler

/-- **A tree is consistent**: no two declarations have one name, and each stands under its own. -/
structure ProgramTree.Consistent (t : ProgramTree) : Prop where
  nodup : t.declarations.keys.Nodup
  named : ∀ entry ∈ t.declarations.entries, entry.2.name = entry.1

/-- **A tree keeps what another one has**: every declaration under its name. -/
def ProgramTree.Keeps (t t' : ProgramTree) : Prop :=
  ∀ name d, t.declaration? name = some d → t'.declaration? name = some d

namespace ProgramTree

variable {t : ProgramTree}

/-- Putting declarations in order moves them, and does nothing else. -/
theorem perm_sortDeclarations (t : ProgramTree) :
    t.sortDeclarations.declarations.entries.Perm t.declarations.entries :=
  List.mergeSort_perm _ _

theorem Consistent.sortDeclarations (h : t.Consistent) : t.sortDeclarations.Consistent where
  nodup := ((t.perm_sortDeclarations.map Prod.fst).nodup_iff).mpr h.nodup
  named entry mem := h.named entry (t.perm_sortDeclarations.mem_iff.mp mem)

theorem Consistent.keeps_sortDeclarations (h : t.Consistent) : t.Keeps t.sortDeclarations := by
  intro name d hd
  have mem := (OrderedMap.mem_entries_iff h.nodup).mpr hd
  exact (OrderedMap.mem_entries_iff h.sortDeclarations.nodup).mp
    (t.perm_sortDeclarations.mem_iff.mpr mem)

/-- **Declarations that are in order** have strictly increasing names. -/
theorem Consistent.pairwise_sortDeclarations (h : t.Consistent) :
    t.sortDeclarations.declarations.keys.Pairwise (· < ·) :=
  List.pairwise_map.mpr (Text.pairwise_lt_mergeSort (List.pairwise_map.mp h.nodup))

theorem keeps_extend (t : ProgramTree) (added : List TypeDeclaration) (found : List EntryPoint) :
    t.Keeps (t.extend added found) := by
  intro name d hd
  have hlookup : t.declarations.entries.lookup name = some d := hd
  show (t.declarations.entries ++ added.map fun d => (d.name, d)).lookup name = some d
  rw [List.lookup_append, hlookup, Option.some_or]

end ProgramTree

namespace Host

section Adds

variable {path : Path} {text : String} {t : ProgramTree} {added : List TypeDeclaration}
  {found : List EntryPoint} {duplicates : List Report}

/-- **Scanning a file leaves a consistent tree.** -/
theorem Adds.consistent (h : Adds path text t added found duplicates) (ht : t.Consistent) :
    (t.extend added found).Consistent where
  nodup := by
    rw [ProgramTree.keys_extend]
    exact h.entered.nodup ht.nodup
  named entry mem := by
    obtain mem | mem := List.mem_append.mp mem
    · exact ht.named entry mem
    · obtain ⟨d, -, rfl⟩ := List.mem_map.mp mem
      rfl

/-- What has been added is found under its name. -/
theorem Adds.declaration? (h : Adds path text t added found duplicates) (ht : t.Consistent)
    {d : TypeDeclaration} (mem : d ∈ added) : (t.extend added found).declaration? d.name = some d := by
  refine (OrderedMap.mem_entries_iff (h.consistent ht).nodup).mp ?_
  exact List.mem_append_right _ (List.mem_map.mpr ⟨d, mem, rfl⟩)

end Adds

/-- **What is done to the tree of a run.** -/
inductive TreeStep where
  /-- A file is noted that is handed to the frontend. -/
  | note (path : Path)
  /-- A file is scanned. -/
  | scan (path : Path) (text : String)
  /-- Types are defined. -/
  | define
deriving DecidableEq, Repr

/-- The tree behind a step. -/
def TreeStep.apply (t : ProgramTree) : TreeStep → ProgramTree
  | .note path => { t with files := t.files ++ [path] }
  | .scan path text => (scanText path text t).1.tree
  | .define => t.sortDeclarations

/-- **The steps are what the host does** when it is asked to parse a file or to define types. -/
theorem TreeStep.apply_eq {σ : Type} (t : ProgramTree) (request : ParseRequest) (engine : Engine)
    (site : Site σ) :
    apply t (.scan request.path request.text) = (scanFrontend.parse request t engine site).1.tree ∧
      apply t .define = (nominalTypes.defineTypes t engine site).1.1 := ⟨rfl, rfl⟩

/-- **The tree behind steps**, of which nothing stands ahead. -/
def treeAfter (steps : List TreeStep) : ProgramTree := steps.foldl TreeStep.apply {}

theorem treeAfter_append (steps more : List TreeStep) :
    treeAfter (steps ++ more) = more.foldl TreeStep.apply (treeAfter steps) := List.foldl_append

/-- **One step**: a consistent tree stays so, and keeps its declarations. -/
theorem TreeStep.consistent {t : ProgramTree} (step : TreeStep) (h : t.Consistent) :
    (step.apply t).Consistent ∧ t.Keeps (step.apply t) := by
  cases step with
  | note path => exact ⟨⟨h.nodup, h.named⟩, fun _ _ hd => hd⟩
  | scan path text =>
      obtain ⟨added, found, duplicates, hadds⟩ := exists_adds path text t
      have hscan : apply t (.scan path text) = t.extend added found := hadds.tree
      rw [hscan]
      exact ⟨hadds.consistent h, t.keeps_extend added found⟩
  | define => exact ⟨h.sortDeclarations, h.keeps_sortDeclarations⟩

/-- Many steps. -/
theorem foldl_consistent {t : ProgramTree} (h : t.Consistent) (steps : List TreeStep) :
    (steps.foldl TreeStep.apply t).Consistent ∧ t.Keeps (steps.foldl TreeStep.apply t) := by
  induction steps generalizing t with
  | nil => exact ⟨h, fun _ _ hd => hd⟩
  | cons step rest ih =>
      obtain ⟨hstep, hkeeps⟩ := step.consistent h
      obtain ⟨hrest, hkeeps'⟩ := ih hstep
      exact ⟨hrest, fun name d hd => hkeeps' name d (hkeeps name d hd)⟩

theorem consistent_treeAfter (steps : List TreeStep) : (treeAfter steps).Consistent := by
  have hempty : ({} : ProgramTree).Consistent := ⟨List.nodup_nil, by simp⟩
  exact (foldl_consistent hempty steps).1

/-- **Every candidate was found in a file** that has been scanned. -/
theorem exists_scan_of_candidate {steps : List TreeStep} {candidate : EntryPoint}
    (mem : candidate ∈ (treeAfter steps).candidates) :
    ∃ before path text behind added found duplicates, steps = before ++ .scan path text :: behind ∧
      Adds path text (treeAfter before) added found duplicates ∧ candidate ∈ found := by
  -- From the last step backwards: the tree ahead of a scan is the tree behind the steps before it.
  induction steps using List.reverseRecOn with
  | nil => cases mem
  | append_singleton steps step ih =>
      have hearlier (mem : candidate ∈ (treeAfter steps).candidates) :
          ∃ before path text behind added found duplicates,
            steps ++ [step] = before ++ .scan path text :: behind ∧
              Adds path text (treeAfter before) added found duplicates ∧ candidate ∈ found := by
        obtain ⟨before, path, text, behind, added, found, duplicates, rfl, hfound⟩ := ih mem
        refine ⟨before, path, text, behind ++ [step], added, found, duplicates, ?_, hfound⟩
        rw [List.append_assoc]
        rfl
      rw [treeAfter_append] at mem
      cases step with
      | note path => exact hearlier mem
      | define => exact hearlier mem
      | scan path text =>
          obtain ⟨added, found, duplicates, hadds⟩ := exists_adds path text (treeAfter steps)
          have mem : candidate ∈ (scanText path text (treeAfter steps)).1.tree.candidates := mem
          rw [hadds.tree] at mem
          obtain mem | mem := List.mem_append.mp mem
          · exact hearlier mem
          · exact ⟨steps, path, text, [], added, found, duplicates, rfl, hadds, mem⟩

/-- A declaration behind a scan. -/
theorem declaration?_of_adds {before behind : List TreeStep} {path : Path} {text : String}
    {added : List TypeDeclaration} {found : List EntryPoint} {duplicates : List Report}
    (h : Adds path text (treeAfter before) added found duplicates) {d : TypeDeclaration}
    (mem : d ∈ added) :
    (treeAfter (before ++ .scan path text :: behind)).declaration? d.name = some d := by
  have ht := consistent_treeAfter before
  have hkeeps := (foldl_consistent (h.consistent ht) behind).2
  rw [treeAfter_append, List.foldl_cons, TreeStep.apply, h.tree]
  exact hkeeps d.name d (h.declaration? ht mem)

/-- **The tree stays consistent**, whatever files are scanned into it and whenever its types are
defined.  No two declarations have one name, and each stands under its own.  Scanning a file, to its end
or not, adds to a tree what stands in the file, behind what is there, and reports what is there already;
what has been added is found for ever after.  Defining the types moves declarations only.  Every
candidate was found in a file that declares its type as a class or struct. -/
theorem tree_consistent (steps : List TreeStep) :
    (treeAfter steps).Consistent ∧
      (∀ before path text behind, steps = before ++ TreeStep.scan path text :: behind →
        ∃ added found duplicates, Adds path text (treeAfter before) added found duplicates ∧
          treeAfter (before ++ [TreeStep.scan path text]) = (treeAfter before).extend added found ∧
          ∀ d ∈ added, (treeAfter steps).declaration? d.name = some d) ∧
      (∀ before behind, steps = before ++ TreeStep.define :: behind →
        (treeAfter (before ++ [TreeStep.define])).declarations.entries.Perm
            (treeAfter before).declarations.entries ∧
          (treeAfter (before ++ [TreeStep.define])).candidates = (treeAfter before).candidates) ∧
      ∀ candidate ∈ (treeAfter steps).candidates, ∃ before path text behind found d,
        steps = before ++ TreeStep.scan path text :: behind ∧
          (treeAfter (before ++ [TreeStep.scan path text])).candidates =
            (treeAfter before).candidates ++ found ∧ candidate ∈ found ∧
          (treeAfter steps).declaration? candidate.declaringType = some d ∧
          (d.kind = .class ∨ d.kind = .struct) ∧ d.location.path = path := by
  have hscan (before : List TreeStep) (path : Path) (text : String) :
      treeAfter (before ++ [TreeStep.scan path text]) = (scanText path text (treeAfter before)).1.tree := by
    rw [treeAfter_append]
    rfl
  refine ⟨consistent_treeAfter steps, ?_, ?_, ?_⟩
  · rintro before path text behind rfl
    obtain ⟨added, found, duplicates, hadds⟩ := exists_adds path text (treeAfter before)
    refine ⟨added, found, duplicates, hadds, (hscan before path text).trans hadds.tree, ?_⟩
    intro d mem
    exact declaration?_of_adds hadds mem
  · intro before behind _
    rw [treeAfter_append]
    exact ⟨(treeAfter before).perm_sortDeclarations, rfl⟩
  · intro candidate mem
    obtain ⟨before, path, text, behind, added, found, duplicates, rfl, hadds, hfound⟩ :=
      exists_scan_of_candidate mem
    obtain ⟨d, hd, hname, hkind⟩ := hadds.host candidate hfound
    refine ⟨before, path, text, behind, found, d, rfl, ?_, hfound, ?_, hkind, (hadds.place d hd).1⟩
    · rw [hscan, hadds.tree]
      rfl
    · rw [← hname]
      exact declaration?_of_adds hadds hd

/-- A file that is given up adds what stands ahead, and a name that is taken is not given away. -/
example :
    (treeAfter [.scan ⟨"a.cs"⟩ "class B\n\x7d\nclass C",
      .scan ⟨"b.cs"⟩ "enum B\nenum A"]).declarations.values =
      [⟨"B", .class, ⟨⟨"a.cs"⟩, 1, 7⟩⟩, ⟨"A", .enum, ⟨⟨"b.cs"⟩, 2, 6⟩⟩] := rfl

end Host

end BatchCompiler

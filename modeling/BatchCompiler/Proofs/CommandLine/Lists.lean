import BatchCompiler.Proofs.CommandLine.Additions
import BatchCompiler.Proofs.Source.Taking

/-!
# The lists that additions make

However the additions come, a list of sources or resources keeps what was added first, and an alias
stands for what it was last assigned; each list is in the order in which its entries first came.

## Main definitions

* `ReferenceSet.assignment?` — the alias that a reference assigns, with its library
* `ResourceTable.Holds`, `ReferenceSet.Assigns` — a table or set is what its entries have made it
* `Config.Lists.Hold` — the lists are what additions have made them

## Main statements

* `ResourceTable.Holds.add`, `ReferenceSet.Assigns.addWritten` — one more entry
* `Config.Lists.hold_nil`, `Config.Lists.Hold.addAll` — the lists after any additions
-/

namespace BatchCompiler

/-! ## Resources -/

/-- Two resources have one name. -/
def Resource.sameName (r r' : Resource) : Bool := r.name = r'.name

theorem Resource.sameName_iff {r r' : Resource} : r.sameName r' = true ↔ r.name = r'.name :=
  decide_eq_true_iff

/-- **A table holds resources as they first came**, one of a name. -/
structure ResourceTable.Holds (registered : List Resource) (t : ResourceTable) : Prop where
  toList : t.toList = registered.eraseDupsBy Resource.sameName
  /-- A name stands for the resource that was registered under it first. -/
  get? (name : String) : t.get? name = registered.find? (·.name = name)

namespace ResourceTable

variable {registered : List Resource} {t : ResourceTable}

theorem holds_nil : Holds [] {} := ⟨rfl, fun _ => rfl⟩

/-- A name is taken if a resource that was kept has it. -/
theorem Holds.contains (h : Holds registered t) (r : Resource) :
    t.entries.contains r.name = (registered.eraseDupsBy Resource.sameName).any r.sameName := by
  have hget : t.entries.get? r.name = _ := h.get? r.name
  have hrespects : ∀ a b : Resource, a.sameName b = true →
      decide (a.name = r.name) = decide (b.name = r.name) := fun a b hlike => by
    rw [Resource.sameName_iff.mp hlike]
  unfold OrderedMap.contains
  rw [hget, ← find?_eraseDupsBy hrespects, Bool.eq_iff_iff, List.find?_isSome, List.any_eq_true]
  simp only [decide_eq_true_eq, Resource.sameName_iff, @eq_comm String r.name]

/-- **One more resource** is taken in unless its name is taken. -/
theorem Holds.add (h : Holds registered t) (r : Resource) :
    Holds (registered ++ [r]) (t.add r).1 := by
  unfold ResourceTable.add
  split
  · rename_i htaken
    refine ⟨?_, fun name => ?_⟩
    · rw [eraseDupsBy_concat, ← h.contains, if_pos htaken]
      exact h.toList
    · -- Under the name that is taken, something was found already.
      rw [List.find?_append, ← h.get?]
      by_cases hname : r.name = name
      · subst hname
        obtain ⟨first, hfirst⟩ := Option.isSome_iff_exists.mp htaken
        rw [show t.get? r.name = some first from hfirst, Option.some_or]
      · rw [List.find?_cons_of_neg (by simpa using hname), List.find?_nil, Option.or_none]
  · rename_i hfree
    have hnone : t.entries.get? r.name = none := by
      simpa [OrderedMap.contains] using hfree
    refine ⟨?_, fun name => ?_⟩
    · rw [eraseDupsBy_concat, ← h.contains, if_neg hfree, ← h.toList]
      exact OrderedMap.values_put_of_get?_eq_none hnone
    · rw [List.find?_append, ← h.get?]
      show (t.entries.put r.name r).get? name = _
      rw [OrderedMap.get?_put]
      by_cases hname : name = r.name
      · subst hname
        rw [if_pos rfl, show t.get? r.name = none from hnone]
        simp
      · rw [if_neg hname, List.find?_cons_of_neg (by simpa using Ne.symm hname), List.find?_nil,
          Option.or_none]
        rfl

/-- **No two resources have one name.** -/
theorem Holds.nodup (h : Holds registered t) : (t.toList.map Resource.name).Nodup := by
  rw [List.Nodup, List.pairwise_map, h.toList]
  refine (pairwise_eraseDupsBy registered).imp fun hlike heq => ?_
  exact Bool.eq_false_iff.mp hlike (Resource.sameName_iff.mpr heq.symm)

end ResourceTable

/-! ## Aliases -/

/-- **The alias that a reference assigns**, with its library: the alias is valid and the library is
named. -/
def ReferenceSet.assignment? (entry : String) : Option (String × String) :=
  match Text.cutAtFirst? '=' entry with
  | some (alias_, name) =>
      if name ≠ "" ∧ isValidAlias alias_ = true then some (alias_, name) else none
  | none => none

/-- **A set assigns aliases**: in the order in which they were first assigned, each to the library that
it was assigned last. -/
structure ReferenceSet.Assigns (assigned : List (String × String)) (s : ReferenceSet) : Prop where
  keys : s.aliases.keys = (assigned.map Prod.fst).eraseDups
  get? (alias_ : String) : s.aliases.get? alias_ = assigned.reverse.lookup alias_

namespace ReferenceSet

variable {assigned : List (String × String)} {s : ReferenceSet}

theorem assigns_nil : Assigns [] {} := ⟨rfl, fun _ => rfl⟩

theorem Assigns.put (h : Assigns assigned s) (alias_ name : String) :
    Assigns (assigned ++ [(alias_, name)]) { s with aliases := s.aliases.put alias_ name } where
  keys := by
    rw [List.map_append, List.map_singleton, eraseDups_concat, ← h.keys]
    show (s.aliases.put alias_ name).keys = _
    rw [OrderedMap.keys_put]
    simp only [h.keys, List.mem_eraseDups]
  get? other := by
    show (s.aliases.put alias_ name).get? other = _
    rw [OrderedMap.get?_put, h.get?, List.reverse_concat, List.lookup_cons]
    by_cases heq : other = alias_
    · simp [heq]
    · rw [if_neg heq, beq_false_of_ne heq]

/-- **One more reference** assigns its alias, if it has a valid one. -/
theorem Assigns.addWritten (h : Assigns assigned s) (entry : String) :
    Assigns (assigned ++ (assignment? entry).toList) (s.addWritten entry).1 := by
  unfold ReferenceSet.addWritten assignment?
  cases Text.cutAtFirst? '=' entry with
  | none =>
      rw [Option.toList_none, List.append_nil]
      exact ⟨h.keys, h.get?⟩
  | some cut =>
      obtain ⟨alias_, name⟩ := cut
      dsimp only
      unfold addAlias aliasProblem?
      by_cases hname : name = ""
      · simpa [hname] using h
      · cases hvalid : isValidAlias alias_ with
        | false => simpa [hname, hvalid] using h
        | true => simpa [hname, hvalid] using h.put alias_ name

/-- **No alias has two places.** -/
theorem Assigns.nodup (h : Assigns assigned s) : s.aliases.keys.Nodup := by
  rw [h.keys]
  exact nodup_eraseDups _

/-- An alias that is assigned is valid, and its library is named. -/
theorem valid_of_assignment? {entry alias_ name : String}
    (h : assignment? entry = some (alias_, name)) : isValidAlias alias_ = true ∧ name ≠ "" := by
  unfold assignment? at h
  split at h
  · split at h
    · rename_i hvalid
      cases h
      exact hvalid.symm
    · cases h
  · cases h

end ReferenceSet

/-! ## What additions mean -/

namespace Addition

/-- The files that an addition names. -/
def files (env : Environment) : Addition → List Path
  | .source spec recurse => SourceSet.named env.files env.toolkit.engine spec recurse
  | _ => []

/-- The resource that an addition registers. -/
def resource? : Addition → Option Resource
  | .resource r => some r
  | _ => none

/-- The alias that an addition assigns. -/
def assignment? : Addition → Option (String × String)
  | .reference entry => ReferenceSet.assignment? entry
  | _ => none

/-- The conditional symbol that an addition defines. -/
def symbol? : Addition → Option String
  | .symbol name => some name
  | _ => none

end Addition

/-- **The lists are what additions have made them.** -/
structure Config.Lists.Hold (env : Environment) (as : List Addition) (l : Config.Lists) : Prop where
  /-- The files named, each as it first came. -/
  sources : l.sources.files = (as.flatMap (Addition.files env)).eraseDupsBy Path.same
  resources : l.resources.Holds (as.filterMap Addition.resource?)
  references : l.references.Assigns (as.filterMap Addition.assignment?)
  /-- The symbols defined, each as it first came. -/
  symbols : l.symbols = (as.filterMap Addition.symbol?).eraseDups

namespace Config.Lists

variable {env : Environment} {as more : List Addition} {l l' : Config.Lists}

/-- One more symbol, where symbols are those named so far, each as it first came. -/
theorem symbols_add {earlier : List String} (h : l.symbols = earlier.eraseDups) (a : Addition) :
    (l.add env a).symbols = (earlier ++ a.symbol?.toList).eraseDups := by
  cases a with
  | symbol name =>
      show (if name ∈ l.symbols then l.symbols else l.symbols ++ [name]) = _
      rw [Addition.symbol?, Option.toList_some, eraseDups_concat, ← h]
      simp only [h, List.mem_eraseDups]
  | source | resource | reference =>
      simp only [Addition.symbol?, Option.toList_none, List.append_nil]
      exact h

/-- **The symbols after any additions.** -/
theorem symbols_addAll {earlier : List String} (h : l.symbols = earlier.eraseDups)
    (as : List Addition) :
    (l.addAll env as).symbols = (earlier ++ as.filterMap Addition.symbol?).eraseDups := by
  induction as using List.reverseRecOn with
  | nil => rwa [List.filterMap_nil, List.append_nil]
  | append_singleton as a ih =>
      rw [addAll_append, filterMap_concat, ← List.append_assoc]
      exact symbols_add ih a

/-- **One more addition.** -/
theorem Hold.add (h : l.Hold env as) (a : Addition) : (l.add env a).Hold env (as ++ [a]) where
  sources := by
    rw [List.flatMap_append, List.flatMap_singleton]
    cases a with
    | source spec recurse =>
        show (l.sources.process env.files spec recurse env.toolkit.engine).1.files = _
        rw [SourceSet.process_fst]
        exact SourceSet.files_foldl_insert h.sources _
    | resource | reference | symbol =>
        simp only [Addition.files, List.append_nil]
        exact h.sources
  resources := by
    rw [filterMap_concat]
    cases a with
    | resource r => exact h.resources.add r
    | source | reference | symbol =>
        simp only [Addition.resource?, Option.toList_none, List.append_nil]
        exact h.resources
  references := by
    rw [filterMap_concat]
    cases a with
    | reference entry => exact h.references.addWritten entry
    | source | resource | symbol =>
        simp only [Addition.assignment?, Option.toList_none, List.append_nil]
        exact h.references
  symbols := by
    rw [filterMap_concat]
    exact symbols_add h.symbols a

/-- **More additions**, one after another. -/
theorem Hold.addAll (h : l.Hold env as) (more : List Addition) :
    (l.addAll env more).Hold env (as ++ more) := by
  induction more using List.reverseRecOn with
  | nil => rwa [List.append_nil]
  | append_singleton more a ih =>
      rw [addAll_append, ← List.append_assoc]
      exact ih.add a

/-- No additions make no lists. -/
theorem hold_nil (env : Environment) : ({} : Config.Lists).Hold env [] :=
  ⟨rfl, ResourceTable.holds_nil, ReferenceSet.assigns_nil, rfl⟩

/-- An alias that is assigned again keeps its place, and one that is not valid gets none. -/
example (env : Environment) : (({} : Config.Lists).addAll env [.reference "a=one",
    .reference "b=two", .reference "a=three", .reference "c-d=four"]).references.aliases =
      ⟨[("a", "three"), ("b", "two")]⟩ := by cbv

/-- **No source is named twice**, whatever its spelling. -/
theorem Hold.pairwise_sources (h : l.Hold env as) :
    l.sources.files.Pairwise fun p q => q.same p = false := by
  rw [h.sources]
  exact pairwise_eraseDupsBy _

/-- **An alias is valid and its library is named.** -/
theorem Hold.valid (h : l.Hold env as) {alias_ name : String}
    (hget : l.references.aliases.get? alias_ = some name) :
    isValidAlias alias_ = true ∧ name ≠ "" := by
  rw [h.references.get?] at hget
  obtain ⟨before, after, hsplit, -⟩ := List.lookup_eq_some_iff.mp hget
  have hmem : (alias_, name) ∈ as.filterMap Addition.assignment? := by
    rw [← List.mem_reverse, hsplit]
    exact List.mem_append_right _ List.mem_cons_self
  obtain ⟨a, -, hassign⟩ := List.mem_filterMap.mp hmem
  cases a with
  | reference entry => exact ReferenceSet.valid_of_assignment? hassign
  | source | resource | symbol => cases hassign

/-- **The first source stays the first**, whatever is added. -/
theorem Hold.first?_of_prefix (h : l.Hold env as) (h' : l'.Hold env (as ++ more)) {p : Path}
    (hfirst : l.sources.first? = some p) : l'.sources.first? = some p := by
  have hprefix : l.sources.files <+: l'.sources.files := by
    rw [h.sources, h'.sources, List.flatMap_append]
    exact eraseDupsBy_prefix _ _
  obtain ⟨others, hothers⟩ := hprefix
  unfold SourceSet.first? at hfirst ⊢
  rw [← hothers, List.head?_append, hfirst, Option.some_or]

end Config.Lists

end BatchCompiler

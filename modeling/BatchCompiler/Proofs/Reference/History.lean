import BatchCompiler.Proofs.Firsts
import BatchCompiler.Proofs.Reference.Search

/-!
# The history of a root namespace

Which units are loaded, which of them are global and what an alias denotes is read off from how the
references have been resolved, one after another.  The calls of a resolver are arbitrary, and so are
the loaders and backends that they are handed.

## Main definitions

* `Resolution` — how one reference has been resolved
* `RootNamespace.Records` — a root namespace is what a history has made of it
* `ReferenceResolver.resolveInOrder` — references resolved in order, and how each has gone
* `ResolverCall`, `ReferenceResolver.makeAll`, `ReferenceResolver.history` — calls of a resolver, and
  the resolutions among them

## Main statements

* `RootNamespace.Records.bind`, `RootNamespace.Records.of_unit?_eq_none` — one more resolution
* `ReferenceResolver.resolveAll_eq` — all references of a compilation are resolved in order
* `ReferenceResolver.Records.makeAll` — any calls
* `ReferenceResolver.root_of_history` — the root namespace is what its history says
-/

namespace BatchCompiler

variable {σ : Type}

/-! ## Histories -/

/-- **How one reference has been resolved**: under which alias and with which answer; at which position
a unit of its name was loaded before, and how many units there were. -/
structure Resolution where
  alias_ : Option String
  answer : Except ResolveError (Option ResolvedUnit)
  loadedAt? : Option Nat
  units : Nat

namespace Resolution

/-- The unit answered, if the reference was resolved to one. -/
def unit? (resolution : Resolution) : Option ResolvedUnit :=
  match resolution.answer with
  | .ok answer => answer
  | .error _ => none

/-- **The position of the unit answered**: the one it had, or behind all others if it is new. -/
def position? (resolution : Resolution) : Option Nat :=
  resolution.unit?.map fun _ => resolution.loadedAt?.getD resolution.units

/-- The unit answered, if it was not loaded before. -/
def newUnit? (resolution : Resolution) : Option ResolvedUnit :=
  if resolution.loadedAt? = none then resolution.unit? else none

/-- The position that a reference without an alias was resolved to. -/
def joined? (resolution : Resolution) : Option Nat :=
  if resolution.alias_ = none then resolution.position? else none

/-- The position that a reference under an alias was resolved to. -/
def boundAs? (alias_ : String) (resolution : Resolution) : Option Nat :=
  if resolution.alias_ = some alias_ then resolution.position? else none

end Resolution

namespace RootNamespace

variable {root : RootNamespace} {history : List Resolution} {resolution : Resolution}

/-- **A root namespace is what a history has made of it**: the units that were loaded, in order; the
positions resolved to without an alias, in the order in which they came first; under an alias, the
position that it was resolved to last.  Every unit answered is at its position. -/
structure Records (root : RootNamespace) (history : List Resolution) : Prop where
  units : root.units = history.filterMap Resolution.newUnit?
  global : root.global = (history.filterMap Resolution.joined?).eraseDups
  aliases : ∀ alias_,
    root.aliases.get? alias_ = (history.filterMap (Resolution.boundAs? alias_)).getLast?
  answered : ∀ resolution ∈ history, ∀ position, resolution.position? = some position →
    root.units[position]? = resolution.unit?

theorem records_empty : Records {} [] where
  units := rfl
  global := rfl
  aliases _ := rfl
  answered _ mem := absurd mem List.not_mem_nil

/-- Every position of a history is one of a unit. -/
theorem Records.lt (h : root.Records history) (mem : resolution ∈ history) {position : Nat}
    (hposition : resolution.position? = some position) : position < root.units.length := by
  have hunit := h.answered resolution mem position hposition
  obtain ⟨u, hu, -⟩ := Option.map_eq_some_iff.mp hposition
  exact (List.getElem?_eq_some_iff.mp (hunit.trans hu)).1

/-- A global position is one that a reference without an alias was resolved to. -/
theorem Records.exists_joined (h : root.Records history) {position : Nat}
    (mem : position ∈ root.global) : ∃ resolution ∈ history, resolution.joined? = some position := by
  rw [h.global, List.mem_eraseDups] at mem
  exact List.mem_filterMap.mp mem

theorem position?_of_joined? {position : Nat} (h : resolution.joined? = some position) :
    resolution.position? = some position := by
  unfold Resolution.joined? at h
  split at h
  · exact h
  · cases h

theorem position?_of_boundAs? {alias_ : String} {position : Nat}
    (h : resolution.boundAs? alias_ = some position) : resolution.position? = some position := by
  unfold Resolution.boundAs? at h
  split at h
  · exact h
  · cases h

/-- What a history has made stores no position but those of units. -/
theorem Records.inRange (h : root.Records history) : root.InRange where
  global position mem := by
    obtain ⟨resolution, hmem, hjoined⟩ := h.exists_joined mem
    exact h.lt hmem (position?_of_joined? hjoined)
  aliases alias_ position hget := by
    rw [h.aliases] at hget
    obtain ⟨resolution, hmem, hbound⟩ := List.mem_filterMap.mp (List.mem_of_getLast? hget)
    exact h.lt hmem (position?_of_boundAs? hbound)

/-- **A reference that is resolved to no unit changes nothing.** -/
theorem Records.of_unit?_eq_none (h : root.Records history) (hunit : resolution.unit? = none) :
    root.Records (history ++ [resolution]) := by
  have hposition : resolution.position? = none := by rw [Resolution.position?, hunit]; rfl
  have hnew : resolution.newUnit? = none := by simp [Resolution.newUnit?, hunit]
  have hjoined : resolution.joined? = none := by simp [Resolution.joined?, hposition]
  have hbound : ∀ alias_, resolution.boundAs? alias_ = none := by
    simp [Resolution.boundAs?, hposition]
  refine ⟨?_, ?_, fun alias_ => ?_, fun resolution' mem position hposition' => ?_⟩
  · rw [filterMap_concat, hnew, h.units]; simp
  · rw [filterMap_concat, hjoined, h.global]; simp
  · rw [filterMap_concat, hbound, h.aliases]; simp
  · rcases List.mem_append.mp mem with hold | hlast
    · exact h.answered resolution' hold position hposition'
    · rw [List.mem_singleton.mp hlast, hposition] at hposition'
      cases hposition'

/-- **A reference that is resolved to a unit binds it**, behind the others if it is new. -/
theorem Records.bind (h : root.Records history) {position : Nat}
    (hposition : resolution.position? = some position)
    (hunit : (root.units ++ resolution.newUnit?.toList)[position]? = resolution.unit?) :
    (RootNamespace.bind { root with units := root.units ++ resolution.newUnit?.toList } position
      resolution.alias_).Records (history ++ [resolution]) where
  units := by rw [bind_units, filterMap_concat, ← h.units]
  global := by
    rw [filterMap_concat]
    cases halias : resolution.alias_ with
    | some alias_ =>
        have hjoined : resolution.joined? = none := by simp [Resolution.joined?, halias]
        rw [hjoined, Option.toList_none, List.append_nil, ← h.global]
        rfl
    | none =>
        have hjoined : resolution.joined? = some position := by
          simp [Resolution.joined?, halias, hposition]
        rw [hjoined, Option.toList_some, eraseDups_concat, ← h.global, bind_none_global]
        simp only [h.global, List.mem_eraseDups]
  aliases other := by
    rw [filterMap_concat, List.getLast?_append, ← h.aliases]
    cases halias : resolution.alias_ with
    | none =>
        have hbound : resolution.boundAs? other = none := by simp [Resolution.boundAs?, halias]
        rw [hbound, bind_none_aliases]
        rfl
    | some alias_ =>
        rw [get?_bind]
        by_cases hother : other = alias_
        · have hbound : resolution.boundAs? other = some position := by
            simp [Resolution.boundAs?, halias, hother, hposition]
          rw [hbound, if_pos hother]
          rfl
        · have hbound : resolution.boundAs? other = none := by
            simp [Resolution.boundAs?, halias, Ne.symm hother]
          rw [hbound, if_neg hother]
          rfl
  answered resolution' mem position' hposition' := by
    rw [bind_units]
    rcases List.mem_append.mp mem with hold | hlast
    · have hlt := h.lt hold hposition'
      exact (List.getElem?_append_left hlt).trans (h.answered resolution' hold position' hposition')
    · obtain rfl := List.mem_singleton.mp hlast
      cases hposition.symm.trans hposition'
      exact hunit

/-- **What is global first stays first**, and comes once. -/
theorem Records.global_of_first {first : Resolution} {more : List Resolution}
    (h : root.Records (first :: more)) {position : Nat} (hfirst : first.joined? = some position) :
    ∃ others, root.global = position :: others ∧ position ∉ others := by
  have hglobal := h.global
  rw [List.filterMap_cons_some hfirst, List.eraseDups_cons] at hglobal
  refine ⟨_, hglobal, ?_⟩
  simp [List.mem_eraseDups]

/-- What is global first provides only what nothing else exports that is global. -/
theorem eq_of_provider?_first {position : Nat} {others : List Nat}
    (hglobal : root.global = position :: others) (hother : position ∉ others) {identifier : String}
    (h : root.provider? identifier = some position) :
    ∀ other ∈ root.global, root.exportsAt identifier other = true → other = position := by
  obtain ⟨-, before, after, hsplit, hafter⟩ := provider?_eq_some_iff.mp h
  intro other mem hexports
  rw [hglobal] at hsplit mem
  cases before with
  | nil =>
      cases hsplit
      rcases List.mem_cons.mp mem with rfl | hmem
      · rfl
      · rw [hafter other hmem] at hexports
        cases hexports
  | cons first before =>
      cases hsplit
      exact absurd (List.mem_append_right before List.mem_cons_self) hother

end RootNamespace

/-! ## References in order -/

/-- **A reference that is to be resolved.** -/
structure ReferenceRequest where
  name : String
  alias_ : Option String
  soft : Bool
deriving DecidableEq, Repr

/-- **All references of a compilation, in order**: core library, soft, hard, aliased. -/
def ReferenceSet.requests (set : ReferenceSet) (standardLibrary : Bool) : List ReferenceRequest :=
  (if standardLibrary then [⟨coreLibrary, none, false⟩] else []) ++
    set.soft.map (⟨·, none, true⟩) ++ set.hard.map (⟨·, none, false⟩) ++
    set.aliases.entries.map fun (alias_, name) => ⟨name, some alias_, false⟩

namespace ReferenceResolver

/-- How a reference has been resolved that was answered so. -/
def resolution (r : ReferenceResolver) (name : String) (alias_ : Option String)
    (answer : Except ResolveError (Option ResolvedUnit)) : Resolution :=
  ⟨alias_, answer, r.loaded? name, r.root.units.length⟩

/-- **Resolve references in order**, and keep how each has gone. -/
def resolveInOrder (loader : UnitLoader σ) (r : ReferenceResolver) :
    List ReferenceRequest → Job σ (List Resolution × ReferenceResolver)
  | [] => return ([], r)
  | request :: rest => do
      let (answer, r') ← r.resolve loader request.name request.alias_ request.soft
      let (more, r'') ← r'.resolveInOrder loader rest
      return (r.resolution request.name request.alias_ answer :: more, r'')

/-- To resolve references in order is to resolve the first ones, then the others. -/
theorem resolveInOrder_append (loader : UnitLoader σ) (first second : List ReferenceRequest) :
    ∀ r : ReferenceResolver, Prod.snd <$> r.resolveInOrder loader (first ++ second) =
      (Prod.snd <$> r.resolveInOrder loader first) >>= fun r' =>
        Prod.snd <$> r'.resolveInOrder loader second := by
  induction first with
  | nil => intro r; rfl
  | cons request rest ih => intro r; funext b; exact congrFun (ih _) _

/-- To resolve each of some names is to resolve them in order. -/
theorem resolveEach_eq (loader : UnitLoader σ) (soft : Bool) (names : List (Option String × String)) :
    ∀ r : ReferenceResolver, r.resolveEach loader soft names =
      Prod.snd <$> r.resolveInOrder loader (names.map fun (alias_, name) => ⟨name, alias_, soft⟩) := by
  induction names with
  | nil => intro r; rfl
  | cons name rest ih => intro r; funext b; exact congrFun (ih _) _

/-- **All references of a compilation are resolved in order.** -/
theorem resolveAll_eq (loader : UnitLoader σ) (r : ReferenceResolver) (set : ReferenceSet)
    (standardLibrary : Bool) :
    r.resolveAll loader set standardLibrary =
      Prod.snd <$> r.resolveInOrder loader (set.requests standardLibrary) := by
  unfold resolveAll ReferenceSet.requests
  rw [resolveInOrder_append, resolveInOrder_append, resolveInOrder_append]
  simp only [resolveEach_eq, List.map_map, bind_assoc]
  cases standardLibrary with
  | true => rfl
  | false => rfl

/-- **What becomes of a reference**: a loaded unit is bound, a unit that is found joins the root, or the
resolver stays as it is. -/
theorem resolve_cases (loader : UnitLoader σ) (r : ReferenceResolver) (name : String)
    (alias_ : Option String) (soft : Bool) (b : Bench σ) :
    (∃ position u, r.loaded? name = some position ∧ r.root.units[position]? = some u ∧
      (r.resolve loader name alias_ soft b).1 = (.ok (some u), r.bind position alias_)) ∨
    (∃ u, r.loaded? name = none ∧
      (r.resolve loader name alias_ soft b).1 = (.ok (some u), r.join u alias_)) ∨
    ∃ answer, (∀ u, answer ≠ .ok (some u)) ∧
      (r.resolve loader name alias_ soft b).1 = (answer, r) := by
  cases hloaded : r.loaded? name with
  | some position =>
      obtain ⟨-, u, hunit, -⟩ := loaded?_eq_some hloaded
      refine .inl ⟨position, u, rfl, hunit, ?_⟩
      rw [resolve_of_loaded hloaded, hunit]
  | none =>
      rcases htry : tryAttempts loader name "" (attempts r.linkPaths name) b with ⟨problem | u, b₁⟩
      · by_cases hdropped : soft = true ∧ problem.code = 6
        · obtain ⟨rfl, hcode⟩ := hdropped
          cases problem with
          | notFound missing log =>
              obtain ⟨b', hresolve, -⟩ := resolve_of_dropped alias_ hloaded htry
              exact .inr (.inr ⟨.ok none, by simp, by rw [hresolve]⟩)
          | invalidMetadata file kind log => cases hcode
          | notAUnit file => cases hcode
        · have hkept : soft = true → problem.code ≠ 6 := fun hsoft hcode => hdropped ⟨hsoft, hcode⟩
          obtain ⟨b', hresolve, -⟩ := resolve_of_problem alias_ hloaded htry hkept
          exact .inr (.inr ⟨.error problem, by simp, by rw [hresolve]⟩)
      · obtain ⟨b', hresolve, -⟩ := resolve_of_found alias_ soft hloaded htry
        exact .inr (.inl ⟨u, rfl, by rw [hresolve]⟩)

/-- **One reference more is one resolution more.** -/
theorem Records.resolve {r : ReferenceResolver} {history : List Resolution}
    (h : r.root.Records history) (loader : UnitLoader σ) (name : String) (alias_ : Option String)
    (soft : Bool) (b : Bench σ) :
    (r.resolve loader name alias_ soft b).1.2.root.Records
      (history ++ [r.resolution name alias_ (r.resolve loader name alias_ soft b).1.1]) := by
  obtain ⟨position, u, hloaded, hunit, hdone⟩ | ⟨u, hloaded, hdone⟩ | ⟨answer, hanswer, hdone⟩ :=
    r.resolve_cases loader name alias_ soft b
  · have hposition : (r.resolution name alias_ (.ok (some u))).position? = some position := by
      simp [Resolution.position?, Resolution.unit?, resolution, hloaded]
    have hnew : (r.resolution name alias_ (.ok (some u))).newUnit? = none := by
      simp [Resolution.newUnit?, resolution, hloaded]
    have hbind := h.bind hposition (by
      rw [hnew, Option.toList_none, List.append_nil]
      exact hunit)
    rw [hnew, Option.toList_none, List.append_nil] at hbind
    rw [hdone]
    exact hbind
  · have hposition :
        (r.resolution name alias_ (.ok (some u))).position? = some r.root.units.length := by
      simp [Resolution.position?, Resolution.unit?, resolution, hloaded]
    have hnew : (r.resolution name alias_ (.ok (some u))).newUnit? = some u := by
      simp [Resolution.newUnit?, Resolution.unit?, resolution, hloaded]
    have hbind := h.bind hposition (by
      rw [hnew, Option.toList_some]
      exact List.getElem?_concat_length)
    rw [hnew, Option.toList_some] at hbind
    rw [hdone]
    exact hbind
  · have hunit : (r.resolution name alias_ answer).unit? = none := by
      cases answer with
      | error e => rfl
      | ok answer =>
          cases answer with
          | none => rfl
          | some u => exact absurd rfl (hanswer u)
    rw [hdone]
    exact h.of_unit?_eq_none hunit

theorem Records.resolveInOrder (loader : UnitLoader σ) (requests : List ReferenceRequest) :
    ∀ {r : ReferenceResolver} {history : List Resolution}, r.root.Records history →
      ∀ b : Bench σ, (r.resolveInOrder loader requests b).1.2.root.Records
        (history ++ (r.resolveInOrder loader requests b).1.1) := by
  induction requests with
  | nil =>
      intro r history h b
      show r.root.Records (history ++ [])
      rwa [List.append_nil]
  | cons request rest ih =>
      intro r history h b
      have hrest := ih (Records.resolve h loader request.name request.alias_ request.soft b)
        (r.resolve loader request.name request.alias_ request.soft b).2
      rw [List.append_assoc] at hrest
      exact hrest

/-! ## Modules -/

/-- **A module that is linked is added to the modules**, and nothing else changes. -/
theorem loadModule_eq (output : OutputBackend σ) (r : ReferenceResolver) (name : String)
    (b : Bench σ) :
    (r.loadModule output name b).1.2 =
      { r with root :=
        { r.root with modules := r.root.modules ++ (r.loadModule output name b).1.1.toList } } := by
  unfold loadModule
  rcases htry : tryModules output name "" (moduleCandidates r.linkPaths name) b with
    ⟨problem | ⟨candidate, found⟩, b₁⟩
  · rw [Job.bind_of_eq htry]
    show r = { r with root := { r.root with modules := r.root.modules ++ [] } }
    rw [List.append_nil]
  · rw [Job.bind_of_eq htry]
    rfl

/-- Modules are no part of a history. -/
theorem Records.loadModule {r : ReferenceResolver} {history : List Resolution}
    (h : r.root.Records history) (output : OutputBackend σ) (name : String) (b : Bench σ) :
    (r.loadModule output name b).1.2.root.Records history := by
  rw [loadModule_eq]
  exact ⟨h.units, h.global, h.aliases, h.answered⟩

end ReferenceResolver

/-! ## Calls of a resolver -/

/-- **A call of a resolver**, with the loader or the backend that it is handed. -/
inductive ResolverCall (σ : Type) where
  | setLinkPaths (paths : List Path)
  | resolve (loader : UnitLoader σ) (name : String) (alias_ : Option String) (soft : Bool)
  | resolveAll (loader : UnitLoader σ) (set : ReferenceSet) (standardLibrary : Bool)
  | loadModule (output : OutputBackend σ) (name : String)

namespace ReferenceResolver

/-- Make a call. -/
def make (r : ReferenceResolver) : ResolverCall σ → Job σ ReferenceResolver
  | .setLinkPaths paths => return { r with linkPaths := paths }
  | .resolve loader name alias_ soft => Prod.snd <$> r.resolve loader name alias_ soft
  | .resolveAll loader set standardLibrary => r.resolveAll loader set standardLibrary
  | .loadModule output name => Prod.snd <$> r.loadModule output name

/-- Make calls, one after another. -/
def makeAll (r : ReferenceResolver) : List (ResolverCall σ) → Job σ ReferenceResolver
  | [] => return r
  | call :: rest => do (← r.make call).makeAll rest

/-- The resolutions of a call. -/
def resolutions (r : ReferenceResolver) (b : Bench σ) : ResolverCall σ → List Resolution
  | .setLinkPaths _ | .loadModule .. => []
  | .resolve loader name alias_ soft =>
      [r.resolution name alias_ (r.resolve loader name alias_ soft b).1.1]
  | .resolveAll loader set standardLibrary =>
      (r.resolveInOrder loader (set.requests standardLibrary) b).1.1

/-- **The history of some calls**: how each reference in them has been resolved. -/
def history (r : ReferenceResolver) (b : Bench σ) : List (ResolverCall σ) → List Resolution
  | [] => []
  | call :: rest =>
      let (r', b') := r.make call b
      r.resolutions b call ++ r'.history b' rest

theorem Records.make {r : ReferenceResolver} {past : List Resolution} (h : r.root.Records past)
    (call : ResolverCall σ) (b : Bench σ) :
    (r.make call b).1.root.Records (past ++ r.resolutions b call) := by
  cases call with
  | setLinkPaths paths =>
      show r.root.Records (past ++ [])
      rwa [List.append_nil]
  | resolve loader name alias_ soft => exact Records.resolve h loader name alias_ soft b
  | resolveAll loader set standardLibrary =>
      show (r.resolveAll loader set standardLibrary b).1.root.Records _
      rw [resolveAll_eq]
      exact Records.resolveInOrder loader _ h b
  | loadModule output name =>
      have hmodule := Records.loadModule h output name b
      rwa [← List.append_nil past] at hmodule

/-- **Calls add their history.** -/
theorem Records.makeAll (calls : List (ResolverCall σ)) :
    ∀ {r : ReferenceResolver} {past : List Resolution}, r.root.Records past →
      ∀ b : Bench σ, (r.makeAll calls b).1.root.Records (past ++ r.history b calls) := by
  induction calls with
  | nil =>
      intro r past h b
      show r.root.Records (past ++ [])
      rwa [List.append_nil]
  | cons call rest ih =>
      intro r past h b
      have hrest := ih (Records.make h call b) (r.make call b).2
      rw [List.append_assoc] at hrest
      exact hrest

/-! ## The core library -/

/-- **The core library is the first unit and the first global one**, if it is loaded. -/
theorem core_first (loader : UnitLoader σ) (linkPaths : List Path) (set : ReferenceSet) (b : Bench σ)
    {core : ResolvedUnit}
    (hcore : (({ linkPaths } : ReferenceResolver).resolve loader coreLibrary none false b).1.1 =
      .ok (some core)) :
    let root := (({ linkPaths } : ReferenceResolver).resolveAll loader set true b).1.root
    root.units[0]? = some core ∧ ∃ others, root.global = 0 :: others ∧ 0 ∉ others := by
  intro root
  obtain ⟨more, hrecords⟩ : ∃ more,
      root.Records (({ linkPaths } : ReferenceResolver).resolution coreLibrary none
        (.ok (some core)) :: more) := by
    have hall := Records.resolveInOrder (r := { linkPaths }) loader (set.requests true)
      RootNamespace.records_empty b
    rw [List.nil_append] at hall
    show ∃ more, (({ linkPaths } : ReferenceResolver).resolveAll loader set true b).1.root.Records _
    rw [resolveAll_eq, ← hcore]
    exact ⟨_, hall⟩
  exact ⟨hrecords.answered _ List.mem_cons_self 0 rfl, hrecords.global_of_first rfl⟩

/-! ## The root namespace and its history -/

/-- **The root namespace is what its history says**, whatever is called and whatever the loaders answer.
To look up an identifier is to go to the global unit that exports it and joined last, which a reference
without an alias was resolved to.  A reference that is resolved to no unit changes nothing, and a
module changes the modules only.  The core library, if it is loaded, provides an identifier only if no
other global unit exports it. -/
theorem root_of_history :
    (∀ (calls : List (ResolverCall σ)) (b : Bench σ),
      let root := (makeAll {} calls b).1.root
      root.Records (history {} b calls) ∧ root.InRange ∧ ∀ identifier,
        root.lookup? identifier = (root.provider? identifier).bind (root.units[·]?) ∧
          ∀ position,
            (root.provider? identifier = some position ↔
              root.exportsAt identifier position = true ∧ ∃ before after,
                root.global = before ++ position :: after ∧
                  ∀ later ∈ after, root.exportsAt identifier later = false) ∧
            (root.provider? identifier = some position →
              ∃ resolution ∈ history {} b calls, resolution.joined? = some position)) ∧
    (∀ (loader : UnitLoader σ) (r : ReferenceResolver) (name : String) (alias_ : Option String)
        (soft : Bool) (b : Bench σ),
      (∀ u, (r.resolve loader name alias_ soft b).1.1 ≠ .ok (some u)) →
        (r.resolve loader name alias_ soft b).1.2 = r) ∧
    (∀ (output : OutputBackend σ) (r : ReferenceResolver) (name : String) (b : Bench σ),
      (r.loadModule output name b).1.2 =
        { r with root :=
          { r.root with
            modules := r.root.modules ++ (r.loadModule output name b).1.1.toList } }) ∧
    ∀ (loader : UnitLoader σ) (linkPaths : List Path) (set : ReferenceSet) (b : Bench σ)
        (core : ResolvedUnit),
      (({ linkPaths } : ReferenceResolver).resolve loader coreLibrary none false b).1.1 =
          .ok (some core) →
        let root := (({ linkPaths } : ReferenceResolver).resolveAll loader set true b).1.root
        root.units[0]? = some core ∧ 0 ∈ root.global ∧ ∀ identifier,
          root.provider? identifier = some 0 →
            ∀ other ∈ root.global, root.exportsAt identifier other = true → other = 0 := by
  refine ⟨fun calls b => ?_, fun loader r name alias_ soft b hanswer => ?_,
    fun output r name b => loadModule_eq output r name b,
    fun loader linkPaths set b core hcore => ?_⟩
  · have hrecords := Records.makeAll calls (r := {}) RootNamespace.records_empty b
    rw [List.nil_append] at hrecords
    refine ⟨hrecords, hrecords.inRange, fun identifier => ⟨RootNamespace.lookup?_eq _ _, ?_⟩⟩
    intro position
    refine ⟨RootNamespace.provider?_eq_some_iff, fun hprovider => ?_⟩
    exact hrecords.exists_joined (RootNamespace.mem_global_of_provider? hprovider)
  · obtain ⟨position, u, -, -, hdone⟩ | ⟨u, -, hdone⟩ | ⟨answer, -, hdone⟩ :=
      r.resolve_cases loader name alias_ soft b
    · exact absurd (congrArg Prod.fst hdone) (hanswer u)
    · exact absurd (congrArg Prod.fst hdone) (hanswer u)
    · exact congrArg Prod.snd hdone
  · obtain ⟨hcore, others, hglobal, hother⟩ := core_first loader linkPaths set b hcore
    refine ⟨hcore, ?_, fun identifier hprovider =>
      RootNamespace.eq_of_provider?_first hglobal hother hprovider⟩
    rw [hglobal]
    exact List.mem_cons_self

/-- A loader with a core library and a library that shadows one of its identifiers. -/
def shelf : UnitLoader Unit where
  loadFrom path := return .error (.notFound path "")
  loadByName name :=
    if name = coreLibrary then return .ok ⟨name, ⟨"mscorlib.dll"⟩, ["System", "Object"], false⟩
    else if name = "more" then return .ok ⟨name, ⟨"more.dll"⟩, ["System"], false⟩
    else return .error (.notFound ⟨name⟩ "")
  probeModule _ := return false
  systemDirectory := return ⟨""⟩

/-- Nothing is changed by a soft reference to what is not there; of two libraries the core library
provides what the other one does not export. -/
theorem root_of_history_shelf :
    let b : Bench Unit := { own := (), files := ⟨[], {}⟩ }
    let root := (({} : ReferenceResolver).resolveAll shelf { hard := ["more"] } true b).1.root
    (({} : ReferenceResolver).resolve shelf "other" none true b).1.2 = {} ∧
      root.provider? "System" = some 1 ∧ root.provider? "Object" = some 0 ∧
      ∀ other ∈ root.global, root.exportsAt "Object" other = true → other = 0 := by
  intro b root
  have hsoft : (({} : ReferenceResolver).resolve shelf "other" none true b).1.1 = .ok none := by
    decide +kernel
  have hcore : (({} : ReferenceResolver).resolve shelf coreLibrary none false b).1.1 =
      .ok (some ⟨"mscorlib", ⟨"mscorlib.dll"⟩, ["System", "Object"], false⟩) := by decide +kernel
  have hsystem : root.provider? "System" = some 1 := by decide +kernel
  have hobject : root.provider? "Object" = some 0 := by decide +kernel
  have hstays := root_of_history.2.1 shelf {} "other" none true b (by simp [hsoft])
  obtain ⟨-, -, honly⟩ := root_of_history.2.2.2 shelf [] { hard := ["more"] } b _ hcore
  exact ⟨hstays, hsystem, hobject, honly "Object" hobject⟩

end ReferenceResolver

end BatchCompiler

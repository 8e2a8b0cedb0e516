import BatchCompiler.Collaborator.Job
import BatchCompiler.Text.Blank

/-!
# Resolving references

A reference names a library by path or by simple name.  It is looked for in a fixed order: as
written, then in every directory of the link path; the first attempt that finds anything, good or
bad, decides.

## Main definitions

* `attempts`, `moduleCandidates` — what is tried, in order
* `ReferenceResolver.resolve`, `ReferenceResolver.loadModule` — one reference, one module
* `ReferenceResolver.resolveAll` — all references of a compilation
-/

namespace BatchCompiler

/-- The core library, referred to unless the command line says otherwise. -/
def coreLibrary : String := "mscorlib"

/-- **Why a reference could not be bound.** -/
inductive ResolveError where
  | notFound (name log : String)
  | invalidMetadata (file kind log : String)
  | notAUnit (file : String)
deriving DecidableEq, Repr

namespace ResolveError

/-- The wording. -/
def message : ResolveError → String
  | .notFound name _ => "cannot find metadata file `" ++ name ++ "'"
  | .invalidMetadata file kind _ => "file `" ++ file ++ "' has invalid `" ++ kind ++ "' metadata"
  | .notAUnit file => "Referenced file `" ++ file ++
      "' is not an assembly. Consider using `-addmodule' option instead"

/-- The code of the diagnostic. -/
def code : ResolveError → Int
  | .notFound .. => 6
  | .invalidMetadata .. => 9
  | .notAUnit _ => 1509

/-- The log of the attempts. -/
def log : ResolveError → String
  | .notFound _ log => log
  | .invalidMetadata _ _ log => log
  | .notAUnit _ => ""

/-- **What is reported**: an error, and the log as a note if there is one. -/
def notices (e : ResolveError) : List Notice :=
  .error e.code e.message ::
    if e.log = "" then []
    else [.report (.note ("Log:\n" ++ Text.trimEnd e.log ++ "\n(log related to previous command)"))]

end ResolveError

/-- A name with a slash or a backslash is a path. -/
def isPathShaped (name : String) : Bool :=
  name.toList.contains '/' || name.toList.contains '\\'

/-- A library's name without `.dll` or `.exe` at its end. -/
def simpleName (name : String) : String :=
  ((Text.beforeTail? ".dll" name).orElse fun _ => Text.beforeTail? ".exe" name).getD name

/-- **An attempt to load a unit.** -/
inductive Attempt where
  | byPath (path : Path)
  | byName (name : String)
deriving DecidableEq, Repr

/-- Files that may be the library `name` in a directory. -/
def unitCandidates (name : String) (directory : Path) : List Path :=
  directory.join name :: if simpleName name = name then [directory.join (name ++ ".dll")] else []

/-- **What is tried for a reference**, in order. -/
def attempts (linkPaths : List Path) (name : String) : List Attempt :=
  (if isPathShaped name then .byPath ⟨name⟩ else .byName (simpleName name)) ::
    (linkPaths.flatMap (unitCandidates name)).map .byPath

/-- **What is tried for a module**, in order. -/
def moduleCandidates (linkPaths : List Path) (name : String) : List Path :=
  ⟨name⟩ :: linkPaths.flatMap fun directory =>
    directory.join name ::
      if (Text.beforeTail? ".netmodule" name).isSome then []
      else [directory.join (name ++ ".netmodule")]

variable {σ : Type}

/-- Make an attempt. -/
def Attempt.make (loader : UnitLoader σ) : Attempt → Job σ (Except LoadError ResolvedUnit)
  | .byPath path => Job.ask (.loadFrom path) (loader.loadFrom path)
  | .byName name => Job.ask (.loadByName name) (loader.loadByName name)

/-- **What a failed load means for a reference.**  A bad image that is a well-formed module gets the
more helpful message. -/
def classify (loader : UnitLoader σ) : LoadError → Job σ ResolveError
  | .badImage path log => do
      if ← Job.ask (.probeModule path) (loader.probeModule path) then
        return .notAUnit path.fileNameOrText
      else return .invalidMetadata path.text "assembly" log
  | .notAUnit path => return .notAUnit path.fileNameOrText
  | .notFound path log => return .notFound path.text log

/-- **Try attempts in order**, with the log so far, up to the first that finds anything. -/
def tryAttempts (loader : UnitLoader σ) (name log : String) :
    List Attempt → Job σ (Except ResolveError ResolvedUnit)
  | [] => return .error (.notFound name log)
  | attempt :: rest => do
      match ← attempt.make loader with
      | .ok found => return .ok found
      | .error (.notFound _ more) => tryAttempts loader name (log ++ more) rest
      | .error problem => return .error (← classify loader problem)

/-- **Try to link modules in order**, with the log so far.  The path that was linked comes with the
module. -/
def tryModules (output : OutputBackend σ) (name log : String) :
    List Path → Job σ (Except ResolveError (Path × ResolvedUnit))
  | [] => return .error (.notFound name log)
  | candidate :: rest => do
      match ← Job.ask (.addModule candidate) (output.addModule candidate) with
      | .ok found => return .ok (candidate, found)
      | .error (.notFound _ more) => tryModules output name (log ++ more) rest
      | .error (.badImage path more) => return .error (.invalidMetadata path.text "module" more)
      | .error (.notAUnit path) => return .error (.invalidMetadata path.text "module" "")

/-- **The resolver**: the link path and the root namespace that it fills. -/
structure ReferenceResolver where
  linkPaths : List Path := []
  root : RootNamespace := {}
deriving DecidableEq, Repr

namespace ReferenceResolver

/-- The position of the unit that a simple name is already loaded as. -/
def loaded? (r : ReferenceResolver) (name : String) : Option Nat :=
  if isPathShaped name then none else r.root.position? (simpleName name)

/-- Bind the unit at a position. -/
def bind (r : ReferenceResolver) (position : Nat) (alias_ : Option String) : ReferenceResolver :=
  { r with root := r.root.bind position alias_ }

/-- Add a unit and bind it. -/
def join (r : ReferenceResolver) (u : ResolvedUnit) (alias_ : Option String) : ReferenceResolver :=
  { r with root := (r.root.addUnit u).1.bind (r.root.addUnit u).2 alias_ }

/-- **Resolve one reference** under an alias or into the global root.  A failure is reported and
answered; a soft reference that cannot be found is dropped without a word. -/
def resolve (loader : UnitLoader σ) (r : ReferenceResolver) (name : String)
    (alias_ : Option String) (soft : Bool) :
    Job σ (Except ResolveError (Option ResolvedUnit) × ReferenceResolver) := do
  match r.loaded? name with
  | some position => return (.ok (r.root.units[position]?), r.bind position alias_)
  | none =>
      match ← tryAttempts loader name "" (attempts r.linkPaths name) with
      | .ok found => do
          Job.log .info .references
            ("loaded reference " ++ found.name ++ " from " ++ found.path.text)
          return (.ok (some found), r.join found alias_)
      | .error problem =>
          match problem, soft with
          | .notFound .., true => do
              Job.log .debug .references ("soft reference " ++ name ++ " not found")
              return (.ok none, r)
          | _, _ => do
              Job.tell problem.notices
              return (.error problem, r)

/-- Resolve references in order, whatever becomes of each. -/
def resolveEach (loader : UnitLoader σ) (r : ReferenceResolver) (soft : Bool) :
    List (Option String × String) → Job σ ReferenceResolver
  | [] => return r
  | (alias_, name) :: rest => do
      let (_, r) ← r.resolve loader name alias_ soft
      r.resolveEach loader soft rest

/-- **Resolve all references of a compilation**: core library, soft, hard, aliased. -/
def resolveAll (loader : UnitLoader σ) (r : ReferenceResolver) (set : ReferenceSet)
    (standardLibrary : Bool) : Job σ ReferenceResolver := do
  let r ← r.resolveEach loader false (if standardLibrary then [(none, coreLibrary)] else [])
  let r ← r.resolveEach loader true (set.soft.map (none, ·))
  let r ← r.resolveEach loader false (set.hard.map (none, ·))
  r.resolveEach loader false (set.aliases.entries.map fun (alias_, name) => (some alias_, name))

/-- **Link one module** into the output. -/
def loadModule (output : OutputBackend σ) (r : ReferenceResolver) (name : String) :
    Job σ (Option ResolvedUnit × ReferenceResolver) := do
  match ← tryModules output name "" (moduleCandidates r.linkPaths name) with
  | .ok (candidate, found) => do
      Job.log .info .references ("linked module " ++ candidate.text)
      return (some found, { r with root := r.root.addModule found })
  | .error problem => do
      Job.tell problem.notices
      return (none, r)

/-- Link modules in order. -/
def loadModules (output : OutputBackend σ) (r : ReferenceResolver) :
    List String → Job σ ReferenceResolver
  | [] => return r
  | name :: rest => do
      let (_, r) ← r.loadModule output name
      r.loadModules output rest

end ReferenceResolver

end BatchCompiler

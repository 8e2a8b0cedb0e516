import BatchCompiler.Collaborator.Basic
import BatchCompiler.Text.Blank

/-!
# Scripted collaborators

Collaborators that do what a script says: which errors they report and when, which units there are,
what fails.  They keep a record of what the output was asked to hold.  With them the pipeline can be
driven into every corner without any real work being done.

## Main definitions

* `Script` — what the collaborators do
* `OutputRecord` — what they were asked for
* `collaborators` — all of them
-/

namespace BatchCompiler.Scripted

/-- **A call at which errors can be reported.** -/
inductive Occasion where
  | parse
  | resolveTree
  | populate
  | defineTypes
  | verifyUsing
  | attributes
  | compliance
  | emit
deriving DecidableEq, Repr

namespace Occasion

/-- Every occasion. -/
def all : List Occasion :=
  [.parse, .resolveTree, .populate, .defineTypes, .verifyUsing, .attributes, .compliance, .emit]

/-- The occasion's name. -/
def label : Occasion → String
  | .parse => "Parse"
  | .resolveTree => "ResolveTree"
  | .populate => "Populate"
  | .defineTypes => "DefineTypes"
  | .verifyUsing => "VerifyUsing"
  | .attributes => "Attributes"
  | .compliance => "Compliance"
  | .emit => "Emit"

end Occasion

/-- **A script.**  Paths are compared by what they denote; of two units at one path the later one
counts. -/
structure Script where
  /-- Errors reported on an occasion, in order. -/
  errors : List (Occasion × Int) := []
  /-- Types that every parsed file declares. -/
  declarations : List (String × DeclarationKind) := []
  /-- Why every file is given up. -/
  parseAbort : Option String := none
  entryPoint : Option EntryPoint := none
  coreTypesFound : Bool := true
  clsCompliant : Bool := false
  docsWritten : Bool := true
  /-- Capabilities that the output lacks. -/
  missing : List Capability := []
  initFails : Bool := false
  saveFails : Bool := false
  systemDirectory : Path := ⟨"/stub/lib"⟩
  /-- Units that can be loaded from a path. -/
  units : List ResolvedUnit := []
  /-- Units that can be loaded by name. -/
  namedUnits : List (String × ResolvedUnit) := []
  badImages : List Path := []
  /-- Paths that are well-formed module containers. -/
  moduleContainers : List Path := []
  /-- Modules that can be linked. -/
  modules : List ResolvedUnit := []

/-- **What the output was asked to hold.** -/
structure OutputRecord where
  initPath : Option Path := none
  moduleOnly : Bool := false
  /-- Names, sizes and visibilities. -/
  embedded : List (String × Nat × Visibility) := []
  /-- Names, files and visibilities. -/
  linked : List (String × String × Visibility) := []
  nativeResource : Option Path := none
  versionInfo : Bool := false
  icon : Option Path := none
  entryPoint : Option (EntryPoint × Subsystem) := none
  saved : Option Path := none
deriving DecidableEq, Repr

namespace Script

/-- **A unit at a path**, named after the file. -/
def unitAt (path : Path) (identifiers : List String) (isModule : Bool) : ResolvedUnit :=
  ⟨path.fileStem?.getD "", path, identifiers, isModule⟩

/-- A unit that is loaded by name. -/
def unitNamed (name : String) (identifiers : List String) : ResolvedUnit :=
  unitAt ⟨"/gac/" ++ name ++ ".dll"⟩ identifiers false

/-- The unit at a path. -/
def find? (units : List ResolvedUnit) (path : Path) : Option ResolvedUnit :=
  units.reverse.find? fun u => u.path.same path

/-- The unit of a name. -/
def named? (s : Script) (name : String) : Option ResolvedUnit := s.namedUnits.reverse.lookup name

/-- The errors reported on an occasion. -/
def reports (s : Script) (occasion : Occasion) : List Report :=
  (s.errors.filter (·.1 = occasion)).map fun (_, code) =>
    .error code ("injected " ++ occasion.label ++ " error")

/-- Declare a type in a file, unless it is declared. -/
def declare (path : Path) (tree : ProgramTree) (declared : String × DeclarationKind) :
    ProgramTree :=
  let (name, kind) := declared
  if tree.declarations.contains name then tree
  else { tree with declarations := tree.declarations.put name ⟨name, kind, ⟨path, 1, 1⟩⟩ }

/-- What parsing a file gives. -/
def parse (s : Script) (path : Path) (tree : ProgramTree) : ParseResult :=
  match s.parseAbort with
  | some reason => ⟨tree, s.reports .parse, some reason⟩
  | none => ⟨s.declarations.foldl (declare path) tree, s.reports .parse, none⟩

/-- Load a unit from a path. -/
def loadFrom (s : Script) (path : Path) : Except LoadError ResolvedUnit :=
  match find? s.units path with
  | some unit => .ok unit
  | none =>
      if s.badImages.any path.same then .error (.badImage path ("bad image " ++ path.text))
      else .error (.notFound path ("probed " ++ path.text ++ "\n"))

/-- Load a unit by name. -/
def loadByName (s : Script) (name : String) : Except LoadError ResolvedUnit :=
  match s.named? name with
  | some unit => .ok unit
  | none => .error (.notFound ⟨name⟩ "")

/-- Link a module. -/
def addModule (s : Script) (path : Path) : Except LoadError ResolvedUnit :=
  match find? s.modules path with
  | some unit => .ok unit
  | none =>
      if s.badImages.any path.same then .error (.badImage path "")
      else .error (.notFound path "")

end Script

/-- The kind of a word: `@error` is an invalid token. -/
def wordKind (word : String) : TokenKind := if word = "@error" then .invalid else .token

/-- **Tokens separated by blanks.** -/
def wordKinds (text : String) : List TokenKind := (Text.words text).map wordKind

/-- The scripted frontend. -/
def frontend {σ : Type} (s : Script) : Frontend σ where
  tokens _ text := return wordKinds text
  parse request tree _ := return s.parse request.path tree

/-- The scripted type system. -/
def types {σ : Type} (s : Script) : TypeSystem σ where
  resolveCoreTypes _ _ := return (s.coreTypesFound, [])
  resolveTree tree _ := return (tree, s.reports .resolveTree)
  populate _ tree _ := return (tree, s.reports .populate)
  defineTypes tree _ := return (tree, s.reports .defineTypes)
  verifyUsing _ _ := return s.reports .verifyUsing
  closeTypes tree := return tree

/-- The scripted code generator. -/
def codegen {σ : Type} (s : Script) : CodeGenerator σ where
  emit _ _ _ := return (s.entryPoint, s.reports .emit)

/-- The scripted output backend. -/
def output (s : Script) : OutputBackend OutputRecord where
  init path _ :=
    if s.initFails then return .error (.because "read-only")
    else do
      Act.change ({ · with initPath := some path })
      return .ok ()
  supports capability := return !s.missing.contains capability
  markModuleOnly := Act.change ({ · with moduleOnly := true })
  addModule path := return s.addModule path
  resolveAttributes _ _ := return s.reports .attributes
  isClsCompliant := return s.clsCompliant
  embedResource name bytes visibility :=
    Act.change fun r => { r with embedded := r.embedded ++ [(name, bytes.length, visibility)] }
  linkResource name file visibility :=
    Act.change fun r => { r with linked := r.linked ++ [(name, file, visibility)] }
  defineNativeResource path := do
    Act.change ({ · with nativeResource := some path })
    return .ok ()
  defineVersionInfo := Act.change ({ · with versionInfo := true })
  defineIcon path := do
    Act.change ({ · with icon := some path })
    return .ok ()
  defineEntryPoint entry subsystem :=
    Act.change ({ · with entryPoint := some (entry, subsystem) })
  save path _ :=
    if s.saveFails then return .error (.because "disk full")
    else do
      Act.change ({ · with saved := some path })
      return .ok ()

/-- The scripted unit loader. -/
def loader {σ : Type} (s : Script) : UnitLoader σ where
  loadFrom path := return s.loadFrom path
  loadByName name := return s.loadByName name
  probeModule path := return s.moduleContainers.any path.same
  systemDirectory := return s.systemDirectory

/-- The scripted compliance checker. -/
def compliance {σ : Type} (s : Script) : ComplianceChecker σ where
  verify _ _ _ := return s.reports .compliance

/-- The scripted documentation exporter. -/
def docs {σ : Type} (s : Script) : DocumentationExporter σ where
  export_ _ _ _ := return (s.docsWritten, [])

/-- **All scripted collaborators.** -/
def collaborators (s : Script) : Collaborators OutputRecord where
  frontend := frontend s
  types := types s
  codegen := codegen s
  output := output s
  loader := loader s
  compliance := compliance s
  docs := docs s

end BatchCompiler.Scripted

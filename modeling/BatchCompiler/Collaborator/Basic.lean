import BatchCompiler.Collaborator.Act
import BatchCompiler.Diagnostic.Engine
import BatchCompiler.Options.Config
import BatchCompiler.Program.Tree
import BatchCompiler.Reference.RootNamespace
import BatchCompiler.Text.Toolkit

/-!
# Collaborators

The compiler never parses, checks types or writes binaries itself.  Each of those jobs belongs to a
collaborator, which is a record of acts.  A collaborator that reports diagnostics is shown the engine
and answers with reports; it has no other way to touch it.
-/

namespace BatchCompiler

/-- **A feature that an output backend may lack.** -/
inductive Capability where
  | moduleOnly
  | resourceEmbedding
  | nativeResources
  | iconResources
deriving DecidableEq, Repr

/-- **One token of a source file**, as far as counting goes. -/
inductive TokenKind where
  | token
  | invalid
deriving DecidableEq, Repr

/-- **A source file to be parsed.** -/
structure ParseRequest where
  path : Path
  text : String
  config : Config
deriving DecidableEq

/-- **What parsing a file gives**: the tree with what the file adds, reports, and why the file was
given up, if it was. -/
structure ParseResult where
  tree : ProgramTree
  reports : List Report := []
  abort : Option String := none
deriving DecidableEq

/-- What the code generator needs to know. -/
structure EmitContext where
  target : Target
  mainClass : Option String
  optimize : Bool := false
  checked : Bool := false
  debugInfo : Bool := false
deriving DecidableEq, Repr

/-- **Frontend**: source text to declarations. -/
structure Frontend (σ : Type) where
  /-- The tokens of a file, to its end. -/
  tokens : Path → String → Act σ (List TokenKind)
  parse : ParseRequest → ProgramTree → Engine → Act σ ParseResult

/-- **Type system**: what the declarations mean. -/
structure TypeSystem (σ : Type) where
  /-- Bind the predefined types; `false` ends the run. -/
  resolveCoreTypes : RootNamespace → Engine → Act σ (Bool × List Report)
  resolveTree : ProgramTree → Engine → Act σ (ProgramTree × List Report)
  /-- Populate the tree; the flag is set when the core library itself is compiled. -/
  populate : Bool → ProgramTree → Engine → Act σ (ProgramTree × List Report)
  defineTypes : ProgramTree → Engine → Act σ (ProgramTree × List Report)
  verifyUsing : ProgramTree → Engine → Act σ (List Report)
  closeTypes : ProgramTree → Act σ ProgramTree

/-- **Code generator.**  It answers with the entry point found on the way, if any. -/
structure CodeGenerator (σ : Type) where
  emit : ProgramTree → EmitContext → Engine → Act σ (Option EntryPoint × List Report)

/-- **Output backend**: the container that is written. -/
structure OutputBackend (σ : Type) where
  /-- Open the output; the flag asks for debugging information. -/
  init : Path → Bool → Act σ (Except Fault Unit)
  supports : Capability → Act σ Bool
  markModuleOnly : Act σ Unit
  addModule : Path → Act σ (Except LoadError ResolvedUnit)
  resolveAttributes : ProgramTree → Engine → Act σ (List Report)
  /-- The output declares itself compliant with the common language subset. -/
  isClsCompliant : Act σ Bool
  embedResource : String → List UInt8 → Visibility → Act σ Unit
  linkResource : String → String → Visibility → Act σ Unit
  defineNativeResource : Path → Act σ (Except Fault Unit)
  defineVersionInfo : Act σ Unit
  defineIcon : Path → Act σ (Except Fault Unit)
  defineEntryPoint : EntryPoint → Subsystem → Act σ Unit
  save : Path → Bool → Act σ (Except Fault Unit)

/-- **Unit loader**: where libraries come from. -/
structure UnitLoader (σ : Type) where
  loadFrom : Path → Act σ (Except LoadError ResolvedUnit)
  /-- Load by simple name, without a search. -/
  loadByName : String → Act σ (Except LoadError ResolvedUnit)
  /-- The path is a well-formed module container. -/
  probeModule : Path → Act σ Bool
  /-- The directory of the system's own libraries. -/
  systemDirectory : Act σ Path

/-- **Compliance checker.** -/
structure ComplianceChecker (σ : Type) where
  verify : List ResolvedUnit → ProgramTree → Engine → Act σ (List Report)

/-- **Documentation exporter**; `false` ends the run. -/
structure DocumentationExporter (σ : Type) where
  export_ : Path → ProgramTree → Engine → Act σ (Bool × List Report)

/-- **All collaborators of a run**, over one state that they share, and the tools for text. -/
structure Collaborators (σ : Type) where
  frontend : Frontend σ
  types : TypeSystem σ
  codegen : CodeGenerator σ
  output : OutputBackend σ
  loader : UnitLoader σ
  compliance : ComplianceChecker σ
  docs : DocumentationExporter σ
  toolkit : Text.Toolkit := .bundled

/-- The place of a collaborator among the others. -/
inductive Role where
  | frontend
  | types
  | codegen
  | output
  | loader
  | compliance
  | docs
deriving DecidableEq, Repr

variable {σ τ : Type}

/-- A frontend on part of a state. -/
def Frontend.within (part : StatePart τ σ) (c : Frontend σ) : Frontend τ where
  tokens path text := (c.tokens path text).within part
  parse request tree engine := (c.parse request tree engine).within part

/-- A type system on part of a state. -/
def TypeSystem.within (part : StatePart τ σ) (c : TypeSystem σ) : TypeSystem τ where
  resolveCoreTypes root engine := (c.resolveCoreTypes root engine).within part
  resolveTree tree engine := (c.resolveTree tree engine).within part
  populate bootstrap tree engine := (c.populate bootstrap tree engine).within part
  defineTypes tree engine := (c.defineTypes tree engine).within part
  verifyUsing tree engine := (c.verifyUsing tree engine).within part
  closeTypes tree := (c.closeTypes tree).within part

/-- A code generator on part of a state. -/
def CodeGenerator.within (part : StatePart τ σ) (c : CodeGenerator σ) : CodeGenerator τ where
  emit tree context engine := (c.emit tree context engine).within part

/-- An output backend on part of a state. -/
def OutputBackend.within (part : StatePart τ σ) (c : OutputBackend σ) : OutputBackend τ where
  init path debug := (c.init path debug).within part
  supports capability := (c.supports capability).within part
  markModuleOnly := c.markModuleOnly.within part
  addModule path := (c.addModule path).within part
  resolveAttributes tree engine := (c.resolveAttributes tree engine).within part
  isClsCompliant := c.isClsCompliant.within part
  embedResource name bytes visibility := (c.embedResource name bytes visibility).within part
  linkResource name file visibility := (c.linkResource name file visibility).within part
  defineNativeResource path := (c.defineNativeResource path).within part
  defineVersionInfo := c.defineVersionInfo.within part
  defineIcon path := (c.defineIcon path).within part
  defineEntryPoint entry subsystem := (c.defineEntryPoint entry subsystem).within part
  save path debug := (c.save path debug).within part

/-- A unit loader on part of a state. -/
def UnitLoader.within (part : StatePart τ σ) (c : UnitLoader σ) : UnitLoader τ where
  loadFrom path := (c.loadFrom path).within part
  loadByName name := (c.loadByName name).within part
  probeModule path := (c.probeModule path).within part
  systemDirectory := c.systemDirectory.within part

/-- A compliance checker on part of a state. -/
def ComplianceChecker.within (part : StatePart τ σ) (c : ComplianceChecker σ) :
    ComplianceChecker τ where
  verify modules tree engine := (c.verify modules tree engine).within part

/-- A documentation exporter on part of a state. -/
def DocumentationExporter.within (part : StatePart τ σ) (c : DocumentationExporter σ) :
    DocumentationExporter τ where
  export_ path tree engine := (c.export_ path tree engine).within part

/-- All collaborators on part of a state. -/
def Collaborators.within (part : StatePart τ σ) (c : Collaborators σ) : Collaborators τ where
  frontend := c.frontend.within part
  types := c.types.within part
  codegen := c.codegen.within part
  output := c.output.within part
  loader := c.loader.within part
  compliance := c.compliance.within part
  docs := c.docs.within part
  toolkit := c.toolkit

end BatchCompiler

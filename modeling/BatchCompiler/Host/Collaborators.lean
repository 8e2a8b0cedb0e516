import BatchCompiler.Host.Documentation
import BatchCompiler.Host.Manifest
import BatchCompiler.Host.Scanner

/-!
# The host collaborators

What the compiler works with when it is run from the command line: the scanner, units from files, a
manifest for the output, an XML file for documentation.  There is no analysis of types; defining them
puts them in order.

## Main definitions

* `selectEntryPoint` — which of the scanned `Main` methods starts the program
* `collaborators` — all of them
-/

namespace BatchCompiler.Host

/-- **The type system without analysis.** -/
def nominalTypes {σ : Type} : TypeSystem σ where
  resolveCoreTypes root _ := do
    Act.log .trace .scanner (toString root.units.length ++
      " unit(s) visible while resolving core types")
    return (true, [])
  resolveTree tree _ := return (tree, [])
  populate bootstrap tree _ := do
    Act.log .trace .scanner ("populating " ++ toString tree.declarations.size ++
      " declaration(s), bootstrap: " ++ toString bootstrap)
    return (tree, [])
  defineTypes tree _ := return (tree.sortDeclarations, [])
  verifyUsing _ _ := return []
  closeTypes tree := return tree

/-- Candidates that the main class allows. -/
def allowedCandidates (tree : ProgramTree) (mainClass : Option String) : List EntryPoint :=
  tree.candidates.filter fun c => mainClass.all (c.declaringType = ·)

/-- The report that a program could start at more than one method. -/
def ambiguous (tree : ProgramTree) (candidate : EntryPoint) : Report :=
  let message := "Program has more than one entry point defined: `" ++ candidate.declaringType ++
    ".Main'"
  match tree.declaration? candidate.declaringType with
  | some declaration => .errorAt 17 declaration.location message
  | none => .error 17 message

/-- **Choose the entry point**: the only candidate, or none. -/
def selectEntryPoint (tree : ProgramTree) (context : EmitContext) :
    Option EntryPoint × List Report :=
  if !context.target.needsEntryPoint then (none, [])
  else
    match allowedCandidates tree context.mainClass with
    | [] => (none, [])
    | [entry] => (some entry, [])
    | many => (none, many.map (ambiguous tree))

/-- **The code generator that emits nothing but an entry point.** -/
def entryPointSelector {σ : Type} : CodeGenerator σ where
  emit tree context _ := return selectEntryPoint tree context

/-- **The compliance checker that checks nothing.** -/
def noComplianceChecks {σ : Type} : ComplianceChecker σ where
  verify _ _ _ := return []

/-- **All host collaborators.** -/
def collaborators (systemDirectory : Path) (toolkit : Text.Toolkit := .bundled) :
    Collaborators Manifest where
  frontend := scanFrontend
  types := nominalTypes
  codegen := entryPointSelector
  output := manifestWriter
  loader := fileLoader systemDirectory
  compliance := noComplianceChecks
  docs := xmlExporter
  toolkit := toolkit

end BatchCompiler.Host

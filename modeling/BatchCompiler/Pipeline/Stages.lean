import BatchCompiler.Pipeline.Session

/-!
# The stages of a run

What is done in each phase.  A stage enters its phase, calls the collaborators it needs, and ends the
run where its errors forbid to go on.
-/

namespace BatchCompiler.Stage

variable {σ : Type}

/-- Soft references that every compilation has unless they are turned off. -/
def defaultReferences : List String := ["System", "System.Xml"]

/-- The soft reference that queries need. -/
def queryReference : String := "System.Core"

/-- A file begins like a binary. -/
def looksBinary (bytes : List UInt8) : Bool := [0x4D, 0x5A].isPrefixOf bytes

/-- **Read a source file**: its text, or a report why there is none. -/
def readSource (decoder : Text.Decoder) (files : FileSystem) (encoding : Text.Encoding)
    (path : Path) : Except (List Notice) String :=
  match files.read path with
  | .error fault =>
      .error [.log .debug .pipeline ("reading " ++ path.text ++ " failed: " ++ fault.message),
        .error 2001 ("Source file `" ++ path.text ++ "' could not be found")]
  | .ok bytes =>
      if looksBinary bytes then
        .error [.error 2015 ("Source file `" ++ path.text ++
          "' is a binary file and not a text file")]
      else
        match encoding.decode bytes decoder with
        | .ok text => .ok text
        | .error problem =>
            .error [.error 2016 ("Source file `" ++ path.text ++ "' could not be decoded: " ++
              problem)]

/-- The line that says how many tokens a file has. -/
def tokenCount (kinds : List TokenKind) : String :=
  "Tokenized: " ++ toString kinds.length ++ " found " ++
    toString (kinds.count .invalid) ++ " errors"

/-- Count the tokens of a file. -/
def tokenizeFile (c : Collaborators σ) (path : Path) (text : String) : Stage σ Unit := do
  let kinds ← ask (.tokens path) (c.frontend.tokens path text)
  job (Job.tell [.event (.output (tokenCount kinds))])

/-- Parse a file into the tree. -/
def parseFile (c : Collaborators σ) (path : Path) (text : String) : Stage σ Unit := do
  log .info ("parsing " ++ path.text)
  modify fun s => { s with tree := { s.tree with files := s.tree.files ++ [path] } }
  let s ← get
  let abort ← consult (.parse path text) fun engine => do
    let result ← c.frontend.parse ⟨path, text, s.config⟩ s.tree engine
    return ((result.tree, result.abort), result.reports)
  modify ({ · with tree := abort.1 })
  match abort.2 with
  | some reason =>
      error 589 ("Compilation aborted in file `" ++ path.text ++ "', " ++ reason)
  | none => pure ()

/-- Attempt one source file. -/
def attemptSource (c : Collaborators σ) (path : Path) : Stage σ Unit := do
  let s ← get
  match readSource c.toolkit.decoder s.bench.files s.config.encoding path with
  | .error told => job (Job.tell told)
  | .ok text => if s.config.tokenizeOnly then tokenizeFile c path text else parseFile c path text

/-- Attempt source files in order. -/
def attemptSources (c : Collaborators σ) : List Path → Stage σ Unit
  | [] => pure ()
  | path :: rest => do
      stopIfFatal
      attemptSource c path
      attemptSources c rest

/-- **Parse.** -/
def parse (c : Collaborators σ) : Stage σ Unit := do
  enter .parse
  attemptSources c (← get).config.sources.files
  lap "   Parsing done"
  gate

/-- The references with the default ones. -/
def withDefaults (version : LanguageVersion) (set : ReferenceSet) : ReferenceSet :=
  ((if version = .linq then [queryReference] else []) ++ defaultReferences).foldl
    ReferenceSet.addSoft set

/-- **Add the default references.** -/
def configureDefaults : Stage σ Unit := do
  enter .configureDefaults
  modify fun s =>
    if s.config.defaultReferences then
      { s with config := { s.config with
          references := withDefaults s.config.languageVersion s.config.references } }
    else s
  gate

/-- **Load references** along the link path: the directories named, the system's own, the current
one. -/
def loadReferences (c : Collaborators σ) : Stage σ Unit := do
  enter .loadReferences
  lap "Loading references"
  let system ← ask .systemDirectory c.loader.systemDirectory
  let s ← get
  let resolver := { s.resolver with
    linkPaths := s.config.linkPaths ++ [system, s.bench.files.currentPath] }
  let resolver ← job (resolver.resolveAll c.loader s.config.references s.config.standardLibrary)
  modify ({ · with resolver })
  lap "   References loaded"
  gate

/-- The report that a file cannot be written. -/
def unwritable (path : Path) (fault : Fault) : Report :=
  .error 16 ("Could not write to file `" ++ path.text ++ "', cause: " ++ fault.message)

/-- **Choose the output** and open it. -/
def outputIdentity (c : Collaborators σ) : Stage σ Unit := do
  enter .outputIdentity
  let config := (← get).config
  match config.output.orElse fun _ => config.defaultOutput? with
  | none =>
      error 1562 "If no source files are specified you must specify the output file with -out:"
      throw (.halted .outputIdentity)
  | some path =>
      log .info ("output file " ++ path.text)
      match ← ask (.init path config.debugInfo) (c.output.init path config.debugInfo) with
      | .error fault =>
          report (unwritable path fault)
          throw (.fatal .outputIdentity)
      | .ok () =>
          if config.target = .netmodule then
            if !(← ask (.supports .moduleOnly) (c.output.supports .moduleOnly)) then
              report (.missingSupport "/target:module")
              throw (.missingSupport "/target:module")
            ask .markModuleOnly c.output.markModuleOnly
          modify ({ · with output := some path })

/-- **Link modules.** -/
def loadModules (c : Collaborators σ) : Stage σ Unit := do
  enter .loadModules
  let s ← get
  let resolver ← job (s.resolver.loadModules c.output s.config.modules)
  modify ({ · with resolver })

/-- **Bind the predefined types.** -/
def coreTypes (c : Collaborators σ) : Stage σ Unit := do
  enter .coreTypes
  let root := (← get).resolver.root
  if !(← consult .resolveCoreTypes (c.types.resolveCoreTypes root)) then throw (.fatal .coreTypes)

/-- **Resolve the tree**, populate it, define its types. -/
def resolveTree (c : Collaborators σ) : Stage σ Unit := do
  enter .resolveTree
  lap "Resolving tree"
  rework .resolveTree c.types.resolveTree
  gate
  lap "Populate tree"
  let bootstrap := !(← get).config.standardLibrary
  rework (.populate bootstrap) (c.types.populate bootstrap)
  stopIfFatal
  rework .defineTypes c.types.defineTypes
  lap "   Types definitions"
  stopIfFatal

/-- **Write documentation**, if it is asked for and there is no error. -/
def documentation (c : Collaborators σ) : Stage σ Unit := do
  enter .documentation
  let s ← get
  match s.config.documentation with
  | none => pure ()
  | some path =>
      if s.engine.hasErrors then pure ()
      else
        if !(← consult (.exportDocs path) (c.docs.export_ path s.tree)) then
          throw (.fatal .documentation)
        lap "Documentation"

/-- **Verify using aliases.** -/
def verifyUsing (c : Collaborators σ) : Stage σ Unit := do
  enter .verifyUsing
  let tree := (← get).tree
  review .verifyUsing (c.types.verifyUsing tree)
  gate

/-- **Resolve attributes** and, for a compliant output, verify compliance. -/
def assemblyAttributes (c : Collaborators σ) : Stage σ Unit := do
  enter .assemblyAttributes
  let s ← get
  review .resolveAttributes (c.output.resolveAttributes s.tree)
  if s.config.clsCompliance then
    if ← ask .isClsCompliant c.output.isClsCompliant then
      review .verifyCompliance (c.compliance.verify s.resolver.root.modules s.tree)
  gate

/-- What the code generator is told. -/
def emitContext (config : Config) : EmitContext :=
  ⟨config.target, config.mainClass, config.optimize, config.checked, config.debugInfo⟩

/-- **Emit code.** -/
def emit (c : Collaborators σ) : Stage σ Unit := do
  enter .emit
  lap "Emitting code"
  let s ← get
  let entryPoint ← consult .emit (c.codegen.emit s.tree (emitContext s.config))
  modify ({ · with entryPoint })
  lap "   Code emitted"
  gate

/-- **Close types.** -/
def closeTypes (c : Collaborators σ) : Stage σ Unit := do
  enter .closeTypes
  lap "Closing types"
  let tree := (← get).tree
  let tree ← ask .closeTypes (c.types.closeTypes tree)
  modify ({ · with tree })

/-- **What is wrong when a program has no entry point**: the main class is not declared, cannot have
one, or has none; without a main class the program has none at all, unless there are errors
already. -/
def missingEntryPoint? (s : Session σ) : Option Report :=
  match s.config.mainClass with
  | some name =>
      match s.tree.declaration? name with
      | none => some (.error 1555 ("Could not find `" ++ name ++ "' specified for Main method"))
      | some declaration =>
          if !declaration.kind.canHostEntryPoint then
            some (.error 1556 ("`" ++ name ++
              "' specified for Main method must be a valid class or struct"))
          else
            some (.errorAt 1558 declaration.location
              ("`" ++ name ++ "' does not have a suitable static Main method"))
  | none =>
      if s.engine.hasErrors then none
      else
        some (.error 5001 ("Program `" ++ (s.output.map Path.text).getD "" ++
          "' does not contain a static `Main' method suitable for an entry point"))

/-- **Define the entry point** of a program; anything else must not have a main class. -/
def entryPoint (c : Collaborators σ) : Stage σ Unit := do
  enter .entryPoint
  let s ← get
  if !s.config.target.needsEntryPoint then
    if s.config.mainClass.isSome then
      error 2017 "Cannot specify -main if building a module or library"
  else
    match s.entryPoint with
    | some entry =>
        log .debug ("entry point " ++ entry.declaringType ++ "." ++ entry.method)
        ask (.defineEntryPoint entry s.config.target.subsystem)
          (c.output.defineEntryPoint entry s.config.target.subsystem)
    | none =>
        match missingEntryPoint? s with
        | some r => report r
        | none => pure ()
        throw (.halted .entryPoint)

/-- **Emit resources**; a module can have none. -/
def emitResources (c : Collaborators σ) : Stage σ Unit := do
  enter .emitResources
  let config := (← get).config
  if config.resources.isEmpty then pure ()
  else if config.target = .netmodule then
    error 1507 "Cannot link resource file when building a module"
    throw (.halted .emitResources)
  else
    let (count, resources) ← job (config.resources.emitAll c.output)
    modify fun s => { s with config := { s.config with resources } }
    log .debug (toString count ++ " resource(s) emitted")

/-- Tell that a file of the output could not be read. -/
def unreadableResource (what : String) (path : Path) (fault : Fault) : Stage σ Unit := do
  log .debug (what ++ " " ++ path.text ++ " failed: " ++ fault.message)
  job (Job.tell [ResourceTable.unreadable path])

/-- Define the native resource, or the version information that takes its place. -/
def defineNativeResource (c : Collaborators σ) : Option Path → Stage σ Unit
  | none => ask .defineVersionInfo c.output.defineVersionInfo
  | some path => do
      if ← ask (.supports .nativeResources) (c.output.supports .nativeResources) then
        match ← ask (.defineNativeResource path) (c.output.defineNativeResource path) with
        | .ok () => pure ()
        | .error fault => unreadableResource "native resource" path fault
      else report (.missingSupport "resource embeding")

/-- Define the icon. -/
def defineIcon (c : Collaborators σ) : Option Path → Stage σ Unit
  | none => pure ()
  | some path => do
      if ← ask (.supports .iconResources) (c.output.supports .iconResources) then
        match ← ask (.defineIcon path) (c.output.defineIcon path) with
        | .ok () => pure ()
        | .error fault => unreadableResource "icon" path fault
      else report (.missingSupport "Adding icons")

/-- **Define native resources.** -/
def nativeResources (c : Collaborators σ) : Stage σ Unit := do
  enter .nativeResources
  let config := (← get).config
  defineNativeResource c config.nativeResource
  defineIcon c config.icon

/-- **Save the output**, if there is no error. -/
def save (c : Collaborators σ) : Stage σ Unit := do
  enter .save
  gate
  let s ← get
  match s.output with
  | none => throw (.internal "no output file was set up")
  | some path =>
      match ← ask (.save path s.config.debugInfo) (c.output.save path s.config.debugInfo) with
      | .error fault =>
          report (unwritable path fault)
          throw (.halted .save)
      | .ok () =>
          log .info ("saved " ++ path.text)
          lap "Saved output"
          lap "Total"

end BatchCompiler.Stage

import BatchCompiler.Options.Config
import BatchCompiler.PackageTool
import BatchCompiler.ResponseFile.Expansion
import BatchCompiler.Text.Toolkit

/-!
# Reading a command line

The state in which a command line is read, and what the handlers of single options may do to it:
change the configuration or the reporting policy, tell something, take or add arguments, ask for
information instead of a compilation, or fail.

## Main definitions

* `Reading` — the state
* `Handler` — an action on it that may fail with an `ArgumentError`
-/

namespace BatchCompiler

/-- **A request for information**, which takes the place of a compilation. -/
inductive InfoRequest where
  | help
  | internalHelp
  | about
  | version
deriving DecidableEq, Repr

/-- How log records show a request. -/
def InfoRequest.logName : InfoRequest → String
  | .help => "Help"
  | .internalHelp => "Help2"
  | .about => "About"
  | .version => "Version"

/-- **What a command line asks for.** -/
inductive CommandOutcome where
  | compile (config : Config)
  | info (request : InfoRequest)
deriving DecidableEq

/-- **What a command line is read against**: the file system, which does not change meanwhile, the
package tool, and the tools for text. -/
structure Environment where
  files : FileSystem
  packageTool : PackageTool
  [toolkit : Text.Toolkit]

/-- **A command line being read.** -/
structure Reading where
  config : Config := {}
  desk : Desk := {}
  /-- Arguments still to be read. -/
  unread : List String := []
  /-- No separator has been read yet. -/
  optionsOpen : Bool := true
  request : Option InfoRequest := none
deriving DecidableEq

/-- **An action on a reading**, which may fail. -/
abbrev Handler (α : Type) := ExceptT ArgumentError (StateM Reading) α

namespace Handler

/-- Change the configuration. -/
def configure (change : Config → Config) : Handler Unit :=
  modify fun r => { r with config := change r.config }

/-- Change the reporting policy. -/
def setPolicy (change : ReportingPolicy → ReportingPolicy) : Handler Unit :=
  modify fun r => { r with desk := { r.desk with engine := r.desk.engine.withPolicy change } }

/-- Tell something. -/
def tell (ns : List Notice) : Handler Unit := modify fun r => { r with desk := r.desk.takeAll ns }

/-- Change the configuration by a function that also tells something. -/
def configureTelling (change : Config → Config × List Notice) : Handler Unit := do
  let (config, told) := change (← get).config
  configure fun _ => config
  tell told

/-- Ask for information. -/
def ask (request : InfoRequest) : Handler Unit := modify fun r => { r with request := some request }

/-- The next unread argument, which is thereby read. -/
def nextArgument? : Handler (Option String) := do
  match (← get).unread with
  | [] => return none
  | arg :: rest =>
      modify fun r => { r with unread := rest }
      return some arg

/-- **Add arguments** to the options still to be read. -/
def splice (extra : List String) : Handler Unit :=
  modify fun r => { r with unread := ResponseFile.spliceBeforeSeparator r.unread extra }

/-- Take in a source argument. -/
def addSource (env : Environment) (spec : String) (recurse : Bool) : Handler Unit :=
  configureTelling fun c =>
    let (sources, told) := c.sources.process env.files spec recurse env.toolkit.engine
    ({ c with sources }, told)

/-- Add a resource. -/
def addResource (r : Resource) : Handler Unit :=
  configureTelling fun c =>
    let (resources, told) := c.resources.add r
    ({ c with resources }, told)

/-- Add a reference as written. -/
def addReference (entry : String) : Handler Unit :=
  configureTelling fun c =>
    let (references, told) := c.references.addWritten entry
    ({ c with references }, told)

/-- **Expand packages**: what the tool answers is read before any separator. -/
def expandPackages (env : Environment) (packages : String) : Handler Unit := do
  let config := (← get).config
  let (answer, told) :=
    PackageTool.expand env.packageTool config.packageProgram config.packageArguments packages
  tell told
  match answer with
  | .ok extra => splice extra
  | .error problem => throw problem

/-- Set the warning level; blanks around it do not matter. -/
def setWarningLevel (value : String) : Handler Unit :=
  match Text.natural? 4 (Text.trim value) with
  | some level => setPolicy fun p => { p with warningLevel := level }
  | none => tell [.error 1900 "Warning level must be in the range 0-4"]

/-- The code a list entry of suppressed warnings stands for. -/
def warningCode? (entry : String) : Option Int :=
  (Text.integer32? (Text.trim entry)).bind fun code => if 1 ≤ code then some code else none

/-- Suppress the warning of one entry, or report the entry. -/
def ignoreWarning (entry : String) : Handler Unit :=
  match warningCode? entry with
  | some code => setPolicy (·.ignore code)
  | none => tell [.error 1904 ("`" ++ entry ++ "' is not a valid warning number")]

/-- **Suppress warnings** of a list cut at commas; empty entries do not count. -/
def ignoreWarnings (values : String) : Handler Unit :=
  ((Text.pieces (· = ',') values).filter (· ≠ "")).forM ignoreWarning

/-- A character that may follow in a conditional symbol. -/
def continuesSymbol (c : Char) : Bool := isAlphanumeric c || c = '_'

/-- **A conditional symbol**: a letter or underscore, then letters, numbers or underscores. -/
def isValidSymbol (name : String) : Bool :=
  match name.toList with
  | [] => false
  | c :: rest => startsIdentifier c && rest.all continuesSymbol

/-- Define the symbol of one entry, or warn of the entry. -/
def defineSymbol (entry : String) : Handler Unit :=
  if isValidSymbol entry then configure (·.define entry)
  else tell [.warning 2029 ("Invalid conditional define symbol `" ++ entry ++ "'")]

/-- Choose what to build, or report the name. -/
def setTarget (name : String) : Handler Unit :=
  match Target.ofText? name with
  | some target => configure ({ · with target })
  | none => tell [.error 2019 ("Invalid target type for -target. Valid options are " ++
      Target.validNames)]

/-- Choose the version of the language, or report the name. -/
def setLanguageVersion (name : String) : Handler Unit :=
  match LanguageVersion.ofText? name with
  | some languageVersion => configure ({ · with languageVersion })
  | none => tell [.error 1617 ("Invalid option `" ++ name ++
      "' for /langversion. It must be either `ISO-1', `ISO-2', `Default' or `LINQ'")]

/-- The largest number that can name a code page. -/
def codePageLimit : Nat := 0xffffffffffffffff

/-- The encoding that the value of a code page option names. -/
def encodingNamed? (env : Environment) (value : String) : Option Text.Encoding :=
  match Text.lowerCase value with
  | "utf8" => some .utf8
  | "reset" => some .standard
  | other =>
      (Text.natural? codePageLimit other).bind fun id =>
        Text.Encoding.ofCodePage? id env.toolkit.decoder

/-- Choose the encoding of source files, or report the value. -/
def setEncoding (env : Environment) (value : String) : Handler Unit := do
  match encodingNamed? env value with
  | some encoding =>
      tell [.log .debug .colonOptions ("source encoding " ++ encoding.logName)]
      configure ({ · with encoding })
  | none => tell [.error 2016 ("Code page `" ++ value ++ "' is invalid or not installed")]

end Handler

end BatchCompiler

import BatchCompiler.Options.Target
import BatchCompiler.Reference.Set
import BatchCompiler.Resource.Table
import BatchCompiler.Source.Files
import BatchCompiler.Text.CodePage

/-!
# The configuration of a compilation

Everything the command line decides, except for the reporting policy, which the diagnostics engine
keeps.
-/

namespace BatchCompiler

/-- **Signing options.**  They are recorded; signing is left to the output backend. -/
structure Signing where
  keyFile : Option Path := none
  keyContainer : Option String := none
  delay : Bool := false
deriving DecidableEq, Repr

/-- **A configuration.** -/
structure Config where
  target : Target := .exe
  output : Option Path := none
  sources : SourceSet := {}
  references : ReferenceSet := {}
  modules : List String := []
  linkPaths : List Path := []
  resources : ResourceTable := {}
  nativeResource : Option Path := none
  icon : Option Path := none
  documentation : Option Path := none
  debugInfo : Bool := false
  optimize : Bool := false
  checked : Bool := false
  unsafeCode : Bool := false
  /-- Conditional symbols, in the order in which they were first defined. -/
  defines : List String := []
  languageVersion : LanguageVersion := .standard
  encoding : Text.Encoding := .standard
  mainClass : Option String := none
  /-- The core library is referred to. -/
  standardLibrary : Bool := true
  /-- The default libraries are referred to softly. -/
  defaultReferences : Bool := true
  signing : Signing := {}
  clsCompliance : Bool := true
  tokenizeOnly : Bool := false
  parseOnly : Bool := false
  timestamps : Bool := false
  stackTrace : Bool := false
  debugLevel : Nat := 0
  parserVerbosity : Nat := 0
  /-- The program that package options run. -/
  packageProgram : Path := ⟨"pkg-config"⟩
  /-- Its arguments ahead of all others. -/
  packageArguments : List String := []
  /-- Response files read so far. -/
  responseFiles : List String := []
deriving DecidableEq

namespace Config

/-- The output named after the first source file. -/
def defaultOutput? (c : Config) : Option Path :=
  c.sources.first?.bind fun first =>
    first.fileStem?.map fun stem => first.withFileName (stem ++ c.target.extension)

/-- The configuration with a symbol defined. -/
def define (c : Config) (symbol : String) : Config :=
  if symbol ∈ c.defines then c else { c with defines := c.defines ++ [symbol] }

/-- The run ends after parsing. -/
def stopsAfterParsing (c : Config) : Bool := c.tokenizeOnly || c.parseOnly

end Config

end BatchCompiler

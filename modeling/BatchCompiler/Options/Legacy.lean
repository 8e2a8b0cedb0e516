import BatchCompiler.Options.Reading

/-!
# Legacy options

Options in the older spelling, such as `--main CLASS`.  They are recognised by their exact spelling;
a value is the next argument, whatever it looks like.  Most of them are deprecated in favour of a
colon option, and say so.
-/

namespace BatchCompiler

/-- **A legacy option.** -/
inductive LegacyOption where
  | verbose
  | version
  | parseOnly
  | mainClass
  | unsafeCode
  | help
  | define
  | tokenizeOnly
  | output
  | checked
  | fatal
  | stackTrace
  | linkResource
  | embedResource
  | target
  | reference
  | libraryPath
  | noStandardLibrary
  | warningsAsErrors
  | ignoreWarning
  | warningLevel
  | debugLevel
  | about
  | recurse
  | timestamps
  | debug
  | noConfig
  | expectError
deriving DecidableEq, Repr

namespace LegacyOption

/-- Every option. -/
def all : List LegacyOption :=
  [.verbose, .version, .parseOnly, .mainClass, .unsafeCode, .help, .define, .tokenizeOnly, .output,
   .checked, .fatal, .stackTrace, .linkResource, .embedResource, .target, .reference, .libraryPath,
   .noStandardLibrary, .warningsAsErrors, .ignoreWarning, .warningLevel, .debugLevel, .about,
   .recurse, .timestamps, .debug, .noConfig, .expectError]

/-- Spellings. -/
def names : LegacyOption → List String
  | .verbose => ["-v"]
  | .version => ["--version"]
  | .parseOnly => ["--parse"]
  | .mainClass => ["--main", "-m"]
  | .unsafeCode => ["--unsafe"]
  | .help => ["--help"]
  | .define => ["--define"]
  | .tokenizeOnly => ["--tokenize"]
  | .output => ["-o", "--output"]
  | .checked => ["--checked"]
  | .fatal => ["--fatal"]
  | .stackTrace => ["--stacktrace"]
  | .linkResource => ["--linkresource", "--linkres"]
  | .embedResource => ["--resource", "--res"]
  | .target => ["--target"]
  | .reference => ["-r"]
  | .libraryPath => ["-L"]
  | .noStandardLibrary => ["--nostdlib"]
  | .warningsAsErrors => ["--werror"]
  | .ignoreWarning => ["--nowarn"]
  | .warningLevel => ["--wlevel"]
  | .debugLevel => ["--mcs-debug"]
  | .about => ["--about"]
  | .recurse => ["--recurse"]
  | .timestamps => ["--timestamp"]
  | .debug => ["--debug", "-g"]
  | .noConfig => ["--noconfig"]
  | .expectError => ["--expect-error"]

/-- The spelling that takes the place of a deprecated option. -/
def replacement? : LegacyOption → Option String
  | .mainClass => some "-main:CLASS"
  | .unsafeCode => some "-unsafe"
  | .define => some "-d:NAME"
  | .output => some "-out:FILE"
  | .checked => some "-checked"
  | .linkResource => some "-linkres:VALUE"
  | .embedResource => some "-res:VALUE"
  | .target => some "-target:KIND"
  | .reference => some "-r:REFERENCE"
  | .libraryPath => some "-lib:PATH"
  | .noStandardLibrary => some "-nostdlib"
  | .warningsAsErrors => some "-warnaserror"
  | .ignoreWarning => some "-nowarn:NUMBER"
  | .warningLevel => some "-warn:LEVEL"
  | .recurse => some "-recurse:PATTERN"
  | .debug => some "-debug"
  | .noConfig => some "-noconfig"
  | _ => none

/-- The option takes the next argument. -/
def takesValue : LegacyOption → Bool
  | .mainClass | .define | .output | .linkResource | .embedResource | .target | .reference
  | .libraryPath | .ignoreWarning | .warningLevel | .debugLevel | .recurse | .expectError => true
  | _ => false

/-- **The option of a spelling.** -/
def find? (arg : String) : Option LegacyOption := all.find? (·.names.contains arg)

/-- The error when there is no next argument. -/
def missingValue (o : LegacyOption) (arg : String) : ArgumentError :=
  .missingArgument arg (if o = .warningLevel then 1900 else 5)

/-- The largest debug level. -/
def debugLevelLimit : Nat := 0xffffffff

/-- **What an option does**, as it was spelled and with its value. -/
def apply (env : Environment) (arg value : String) : LegacyOption → Handler Unit
  | .verbose => Handler.configure fun c => { c with parserVerbosity := c.parserVerbosity + 1 }
  | .version => Handler.ask .version
  | .parseOnly => Handler.configure ({ · with parseOnly := true })
  | .mainClass => Handler.configure ({ · with mainClass := some value })
  | .unsafeCode => Handler.configure ({ · with unsafeCode := true })
  | .help => Handler.ask .help
  | .define => Handler.configure (·.define value)
  | .tokenizeOnly => Handler.configure ({ · with tokenizeOnly := true })
  | .output => Handler.configure ({ · with output := some ⟨value⟩ })
  | .checked => Handler.configure ({ · with checked := true })
  | .fatal => Handler.setPolicy ({ · with fatal := true })
  | .stackTrace => Handler.configure ({ · with stackTrace := true })
  | .linkResource => Handler.addResource ⟨value, ⟨value⟩, .linked, .isPublic⟩
  | .embedResource => Handler.addResource ⟨value, ⟨value⟩, .embedded, .isPublic⟩
  | .target => Handler.setTarget value
  | .reference => Handler.addReference value
  | .libraryPath => Handler.configure fun c => { c with linkPaths := c.linkPaths ++ [⟨value⟩] }
  | .noStandardLibrary => Handler.configure ({ · with standardLibrary := false })
  | .warningsAsErrors => Handler.setPolicy ({ · with warningsAsErrors := true })
  | .ignoreWarning =>
      match Text.integer32? value with
      | some code =>
          if 1 ≤ code then Handler.setPolicy (·.ignore code) else throw (.invalidValue arg value)
      | none => throw (.invalidValue arg value)
  | .warningLevel => Handler.setWarningLevel value
  | .debugLevel =>
      match Text.natural? debugLevelLimit value with
      | some level => Handler.configure ({ · with debugLevel := level })
      | none => throw (.invalidValue arg value)
  | .about => Handler.ask .about
  | .recurse => Handler.addSource env value true
  | .timestamps => Handler.configure ({ · with timestamps := true })
  | .debug => Handler.configure ({ · with debugInfo := true })
  | .noConfig => Handler.configure ({ · with defaultReferences := false })
  | .expectError =>
      match Text.integer32? value with
      | some code => Handler.setPolicy ({ · with expected := some code })
      | none => throw (.invalidValue arg value)

/-- The warning that an option is deprecated. -/
def deprecation (arg replacement : String) : Notice :=
  .warning (-29) ("Compatibility: Use " ++ replacement ++ " instead of " ++ arg)

/-- **Read an argument as a legacy option**; `false` when its spelling is none. -/
def tryRead (env : Environment) (arg : String) : Handler Bool := do
  match find? arg with
  | none => return false
  | some o =>
      Handler.tell ((o.replacement?.map (deprecation arg)).toList)
      if o.takesValue then
        match ← Handler.nextArgument? with
        | some value => o.apply env arg value
        | none => throw (o.missingValue arg)
      else o.apply env arg ""
      return true

end LegacyOption

end BatchCompiler

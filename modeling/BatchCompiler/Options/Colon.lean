import BatchCompiler.Options.Reading

/-!
# Colon options

Options of the form `/name` or `/name:value`.  Capitals in the name do not matter, and a name may be
abbreviated where the table below has a second one.  A toggle also takes `+` or `-` after its name.
-/

namespace BatchCompiler

/-- **A colon option.** -/
inductive ColonOption where
  | accepted
  | incremental
  | bugReport
  | target
  | out
  | optimize
  | define
  | packages
  | resource
  | recurse
  | reference
  | addModule
  | nativeResource
  | icon
  | documentation
  | libraryPath
  | debug
  | checked
  | clsCheck
  | unsafeCode
  | warningsAsErrors
  | warningLevel
  | ignoreWarnings
  | noConfig
  | internalHelp
  | help
  | mainClass
  | noStandardLibrary
  | keyFile
  | keyContainer
  | delaySign
  | languageVersion
  | codePage
deriving DecidableEq, Repr

/-- **A colon option as written**: the text before the colon, the text after it, and the state of a
toggle. -/
structure ColonArgument where
  option : String
  value : String
  enabled : Bool := true
deriving DecidableEq, Repr

namespace ColonOption

/-- Every option, in the order of look-up. -/
def all : List ColonOption :=
  [.accepted, .incremental, .bugReport, .target, .out, .optimize, .define, .packages, .resource,
   .recurse, .reference, .addModule, .nativeResource, .icon, .documentation, .libraryPath, .debug,
   .checked, .clsCheck, .unsafeCode, .warningsAsErrors, .warningLevel, .ignoreWarnings, .noConfig,
   .internalHelp, .help, .mainClass, .noStandardLibrary, .keyFile, .keyContainer, .delaySign,
   .languageVersion, .codePage]

/-- Names, in small letters. -/
def names : ColonOption → List String
  | .accepted => ["nologo", "fullpaths"]
  | .incremental => ["incremental"]
  | .bugReport => ["bugreport"]
  | .target => ["target", "t"]
  | .out => ["out"]
  | .optimize => ["optimize", "o"]
  | .define => ["define", "d"]
  | .packages => ["pkg"]
  | .resource => ["linkres", "linkresource", "res", "resource"]
  | .recurse => ["recurse"]
  | .reference => ["reference", "r"]
  | .addModule => ["addmodule"]
  | .nativeResource => ["win32res"]
  | .icon => ["win32icon"]
  | .documentation => ["doc"]
  | .libraryPath => ["lib"]
  | .debug => ["debug"]
  | .checked => ["checked"]
  | .clsCheck => ["clscheck"]
  | .unsafeCode => ["unsafe"]
  | .warningsAsErrors => ["warnaserror"]
  | .warningLevel => ["warn", "w"]
  | .ignoreWarnings => ["nowarn"]
  | .noConfig => ["noconfig"]
  | .internalHelp => ["help2"]
  | .help => ["help", "?"]
  | .mainClass => ["main", "m"]
  | .noStandardLibrary => ["nostdlib"]
  | .keyFile => ["keyfile"]
  | .keyContainer => ["keycontainer"]
  | .delaySign => ["delaysign"]
  | .languageVersion => ["langversion"]
  | .codePage => ["codepage"]

/-- The option takes `+` or `-`. -/
def isToggle : ColonOption → Bool
  | .incremental | .optimize | .debug | .checked | .clsCheck | .unsafeCode | .warningsAsErrors
  | .noConfig | .noStandardLibrary | .delaySign => true
  | _ => false

/-- A name without its `+` or `-`, and the state that stands for. -/
def bareName (name : String) : String × Bool :=
  match Text.beforeTail? "+" name with
  | some bare => (bare, true)
  | none =>
      match Text.beforeTail? "-" name with
      | some bare => (bare, false)
      | none => (name, true)

/-- **The option of a name** in small letters, with the state of a toggle. -/
def find? (name : String) : Option (ColonOption × Bool) :=
  let (bare, enabled) := bareName name
  all.findSome? fun o =>
    if o.isToggle && o.names.contains bare then some (o, enabled)
    else if o.names.contains name then some (o, true)
    else none

/-- The name in an argument, in small letters and without the slash. -/
def nameOf (option : String) : String :=
  Text.lowerCase ((Text.afterLead? "/" option).getD option)

/-- An argument cut at its first colon. -/
def cut (arg : String) : String × String := (Text.cutAtFirst? ':' arg).getD (arg, "")

/-- The second character of a resource option tells embedding from linking. -/
def asksToEmbed (option : String) : Bool :=
  match option.toList with
  | _ :: c :: _ => c = 'r' || c = 'R'
  | _ => false

/-- The value, which must not be empty; a missing one is an error of the given code. -/
def requiredOr (code : Int) (arg : ColonArgument) : Handler String :=
  if arg.value = "" then throw (.missingArgument arg.option code) else return arg.value

/-- The value, which must not be empty. -/
def required (arg : ColonArgument) : Handler String := requiredOr 5 arg

/-- **What an option does.** -/
def apply (env : Environment) (arg : ColonArgument) : ColonOption → Handler Unit
  | .accepted | .incremental => return ()
  | .bugReport =>
      Handler.tell [.event (.output "To file bug reports, please visit the project issue tracker")]
  | .target => Handler.setTarget arg.value
  | .out => do
      let value ← required arg
      Handler.configure ({ · with output := some ⟨value⟩ })
  | .optimize => Handler.configure ({ · with optimize := arg.enabled })
  | .define => do
      let value ← required arg
      (Text.pieces Text.isListMark value).forM Handler.defineSymbol
  | .packages => do
      let value ← required arg
      Handler.expandPackages env value
  | .resource => do
      let value ← required arg
      let (spec?, told) := ResourceSpec.parse arg.option value
      Handler.tell told
      match spec? with
      | none => return ()
      | some spec =>
          let mode := if asksToEmbed arg.option then .embedded else .linked
          Handler.addResource ⟨spec.name, ⟨spec.file⟩, mode, spec.visibility⟩
  | .recurse => do
      let value ← required arg
      Handler.addSource env value true
  | .reference => do
      let value ← required arg
      (Text.entries value).forM Handler.addReference
  | .addModule => do
      let value ← required arg
      Handler.configure fun c => { c with modules := c.modules ++ Text.entries value }
  | .nativeResource => do
      let value ← required arg
      Handler.configure ({ · with nativeResource := some ⟨value⟩ })
  | .icon => do
      let value ← required arg
      Handler.configure ({ · with icon := some ⟨value⟩ })
  | .documentation => do
      let value ← requiredOr 2006 arg
      Handler.configure ({ · with documentation := some ⟨value⟩ })
  | .libraryPath => do
      let value ← required arg
      Handler.configure fun c =>
        { c with linkPaths := c.linkPaths ++ (Text.entries value).map Path.mk }
  | .debug => Handler.configure ({ · with debugInfo := arg.enabled })
  | .checked => Handler.configure ({ · with checked := arg.enabled })
  | .clsCheck => Handler.configure ({ · with clsCompliance := arg.enabled })
  | .unsafeCode => Handler.configure ({ · with unsafeCode := arg.enabled })
  | .warningsAsErrors => Handler.setPolicy ({ · with warningsAsErrors := arg.enabled })
  | .warningLevel => do
      let value ← required arg
      Handler.setWarningLevel value
  | .ignoreWarnings => do
      let value ← required arg
      Handler.ignoreWarnings value
  | .noConfig => Handler.configure ({ · with defaultReferences := !arg.enabled })
  | .internalHelp => Handler.ask .internalHelp
  | .help => Handler.ask .help
  | .mainClass => do
      let value ← required arg
      Handler.configure ({ · with mainClass := some value })
  | .noStandardLibrary => Handler.configure ({ · with standardLibrary := !arg.enabled })
  | .keyFile => do
      let value ← required arg
      Handler.configure fun c => { c with signing := { c.signing with keyFile := some ⟨value⟩ } }
  | .keyContainer => do
      let value ← required arg
      Handler.configure fun c => { c with signing := { c.signing with keyContainer := some value } }
  | .delaySign =>
      Handler.configure fun c => { c with signing := { c.signing with delay := arg.enabled } }
  | .languageVersion => Handler.setLanguageVersion arg.value
  | .codePage => Handler.setEncoding env arg.value

/-- **Read an argument as a colon option**; `false` when its name is none. -/
def tryRead (env : Environment) (arg : String) : Handler Bool := do
  let (option, value) := cut arg
  match find? (nameOf option) with
  | none => return false
  | some (o, enabled) =>
      o.apply env ⟨option, value, enabled⟩
      return true

end ColonOption

end BatchCompiler

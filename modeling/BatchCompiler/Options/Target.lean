/-!
# Targets and language versions

What is to be built, and in which version of the language.
-/

namespace BatchCompiler

/-- **Subsystem** recorded with the entry point. -/
inductive Subsystem where
  | console
  | windows
  | dll
deriving DecidableEq, Repr

/-- The subsystem's name in the output. -/
def Subsystem.label : Subsystem → String
  | .console => "console"
  | .windows => "windows"
  | .dll => "dll"

/-- **Kind of output.** -/
inductive Target where
  | library
  | exe
  | winExe
  | netmodule
deriving DecidableEq, Repr

namespace Target

/-- Every target, in the order in which they are offered. -/
def all : List Target := [.library, .exe, .winExe, .netmodule]

/-- The target's name on the command line. -/
def label : Target → String
  | .library => "library"
  | .exe => "exe"
  | .winExe => "winexe"
  | .netmodule => "module"

/-- The target of a name, spelled exactly. -/
def ofText? (name : String) : Option Target := all.find? (·.label = name)

/-- File extension of the output. -/
def extension : Target → String
  | .exe | .winExe => ".exe"
  | .library => ".dll"
  | .netmodule => ".netmodule"

/-- The output is a program, which starts somewhere. -/
def needsEntryPoint : Target → Bool
  | .exe | .winExe => true
  | .library | .netmodule => false

/-- The output cannot be built from resources alone. -/
def needsSource : Target → Bool
  | .library => false
  | _ => true

/-- The subsystem of the output. -/
def subsystem : Target → Subsystem
  | .exe => .console
  | .winExe => .windows
  | .library | .netmodule => .dll

/-- **The valid names**, as a message lists them. -/
def validNames : String :=
  let quoted := all.map fun t => "`" ++ t.label ++ "'"
  ", ".intercalate quoted.dropLast ++ " or " ++ quoted.getLastD ""

end Target

/-- **Version of the language.** -/
inductive LanguageVersion where
  | iso1
  | iso2
  | standard
  /-- The standard version with queries; it refers to one more library by default. -/
  | linq
deriving DecidableEq, Repr

namespace LanguageVersion

/-- Every version. -/
def all : List LanguageVersion := [.iso1, .iso2, .standard, .linq]

/-- The version's name on the command line. -/
def label : LanguageVersion → String
  | .iso1 => "iso-1"
  | .iso2 => "iso-2"
  | .standard => "default"
  | .linq => "linq"

/-- The version of a name; capitals of the ASCII alphabet do not matter. -/
def ofText? (name : String) : Option LanguageVersion := all.find? (·.label = name.toLower)

end LanguageVersion

end BatchCompiler

import BatchCompiler.Options.Reading

/-!
# Information about the compiler

The texts that answer requests for information.
-/

namespace BatchCompiler

/-- The version of the compiler. -/
def versionText : String := "sharpc compiler version 0.1.0"

/-- What the compiler is. -/
def aboutText : String :=
  versionText ++ "\n\nA batch compiler driver: option parsing, reference resolution\n" ++
    "and the staged compilation pipeline."

/-- **The options of the command line.** -/
def usageText : String := "\n".intercalate
  ["sharpc compiler, (C) the sharpc authors",
   "sharpc [options] source-files",
   "   --about              About the compiler",
   "   -addmodule:M1[,Mn]   Adds the module to the generated assembly",
   "   -checked[+|-]        Sets default arithmetic overflow context",
   "   -codepage:ID         Sets code page to the one in ID (number, utf8, reset)",
   "   -clscheck[+|-]       Disables CLS Compliance verifications",
   "   -define:S1[;S2]      Defines one or more conditional symbols (short: -d)",
   "   -debug[+|-], -g      Generate debugging information",
   "   -delaysign[+|-]      Only insert the public key into the assembly (no signing)",
   "   -doc:FILE            Process documentation comments to XML file",
   "   -help                Lists all compiler options (short: -?)",
   "   -keycontainer:NAME   The key pair container used to sign the output assembly",
   "   -keyfile:FILE        The key file used to strongname the output assembly",
   "   -langversion:TEXT    Specifies language version modes: ISO-1, ISO-2, Default or LINQ",
   "   -lib:PATH1[,PATHn]   Specifies the location of referenced assemblies",
   "   -main:CLASS          Specifies the class with the Main method (short: -m)",
   "   -noconfig            Disables implicitly referenced assemblies",
   "   -nostdlib[+|-]       Does not reference mscorlib.dll library",
   "   -nowarn:W1[,Wn]      Suppress one or more compiler warnings",
   "   -optimize[+|-]       Enables advanced compiler optimizations (short: -o)",
   "   -out:FILE            Specifies output assembly name",
   "   -pkg:P1[,Pn]         References packages P1..Pn",
   "   -recurse:SPEC        Recursively compiles files according to SPEC pattern",
   "   -reference:A1[,An]   Imports metadata from the specified assembly (short: -r)",
   "   -reference:ALIAS=A   Imports metadata using specified extern alias (short: -r)",
   "   -target:KIND         Specifies the format of the output assembly (short: -t)",
   "                        KIND can be one of: " ++ Target.validNames,
   "   -unsafe[+|-]         Allows to compile code which uses unsafe keyword",
   "   -warnaserror[+|-]    Treats all warnings as errors",
   "   -warn:0-4            Sets warning level, the default is 4 (short -w:)",
   "   -help2               Shows internal compiler options",
   "",
   "Resources:",
   "   -linkresource:FILE[,ID] Links FILE as a resource (short: -linkres)",
   "   -resource:FILE[,ID]     Embed FILE as a resource (short: -res)",
   "   -win32res:FILE          Specifies Win32 resource file (.res)",
   "   -win32icon:FILE         Use this icon for the output",
   "   @file                   Read response file for more options",
   "",
   "Options can be of the form -option or /option"]

/-- The options that are of use to the compiler's own authors. -/
def internalUsageText : String := "\n".intercalate
  ["Other flags in the compiler",
   "   --fatal            Makes errors fatal",
   "   --parse            Only parses the source file",
   "   --stacktrace       Shows stack trace at error location",
   "   --timestamp        Displays time stamps of various compiler events",
   "   --expect-error X   Expect that error X will be encountered",
   "   -v                 Verbose parsing (for debugging the parser)",
   "   --mcs-debug X      Sets the debug log level to X (1-3)"]

/-- **The answer to a request.** -/
def InfoRequest.text : InfoRequest → String
  | .help => usageText
  | .internalHelp => internalUsageText
  | .about => aboutText
  | .version => versionText

end BatchCompiler

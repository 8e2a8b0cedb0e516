import BatchCompiler.FileSystem
import BatchCompiler.Notice
import BatchCompiler.Options.ArgumentError
import BatchCompiler.Text.Blank

/-!
# The package tool

A package option stands for the arguments that a package tool answers when it is asked for the
libraries of the packages.  The tool is an outside program; here it is a function.
-/

namespace BatchCompiler

/-- **One run of a program.** -/
inductive ToolRun where
  /-- The program could not be started. -/
  | notStarted (fault : Fault)
  /-- It ended, well or not, with what it wrote on standard output and standard error. -/
  | ended (success : Bool) (output : List UInt8) (problems : String)
deriving DecidableEq

/-- **A package tool**: programs and their arguments to runs. -/
abbrev PackageTool := Path → List String → ToolRun

namespace PackageTool

/-- The arguments of a run for some packages. -/
def arguments (leading : List String) (packages : List String) : List String :=
  leading ++ "--libs" :: packages

/-- What is told about a run before it starts. -/
def startNotice (program : Path) (packages : List String) : Notice :=
  .log .debug .packageTool ("running " ++ program.text ++ " --libs " ++ " ".intercalate packages)

/-- **Expand packages**: run the tool and take the words it answers as arguments. -/
def expand (tool : PackageTool) (program : Path) (leading : List String) (packages : String) :
    Except ArgumentError (List String) × List Notice :=
  let names := Text.entries packages
  match tool program (arguments leading names) with
  | .notStarted fault =>
      (.error (.packageTool ("Couldn't run pkg-config: " ++ fault.message)),
        [startNotice program names])
  | .ended success output problems =>
      let told := [startNotice program names] ++
        if problems = "" then [] else [.event (.problem problems)]
      if success then
        let args := Text.words (Text.Utf8.decode output)
        (.ok args, told ++
          if args.isEmpty then [.warning (-27) "Specified package did not return any information"]
          else [])
      else
        (.error (.packageTool "Error running pkg-config. Check the above output."), told)

end PackageTool

end BatchCompiler

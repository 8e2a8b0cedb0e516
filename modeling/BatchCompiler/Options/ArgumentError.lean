import BatchCompiler.Text.Quoted

/-!
# Argument errors

What ends the reading of a command line.  Everything else that is wrong with one is a diagnostic.
-/

namespace BatchCompiler

/-- **Why a command line cannot be read on.** -/
inductive ArgumentError where
  | unrecognizedOption (argument : String)
  | missingArgument (option : String) (code : Int)
  | invalidValue (option value : String)
  | duplicateResponseFile (file : String)
  | unreadableResponseFile (file : String)
  | noSourceFiles
  /-- The package tool failed, with the words to say so. -/
  | packageTool (problem : String)
deriving DecidableEq, Repr

namespace ArgumentError

/-- The wording. -/
def message : ArgumentError → String
  | .unrecognizedOption argument => "Unrecognized command-line option: `" ++ argument ++ "'"
  | .missingArgument option _ => option ++ " requires an argument"
  | .invalidValue option value => "Invalid argument to " ++ option ++ ": `" ++ value ++ "'"
  | .duplicateResponseFile file => "Response file `" ++ file ++ "' specified multiple times"
  | .unreadableResponseFile file => "Unable to open response file: " ++ file
  | .noSourceFiles => "No files to compile were specified"
  | .packageTool problem => problem

/-- The code of the diagnostic that reports the error. -/
def code : ArgumentError → Int
  | .unrecognizedOption _ => 2007
  | .missingArgument _ code => code
  | .invalidValue .. => 5
  | .duplicateResponseFile _ => 1515
  | .unreadableResponseFile _ => 2011
  | .noSourceFiles => 2008
  | .packageTool _ => -27

/-- How log records show an error. -/
def logText : ArgumentError → String
  | .unrecognizedOption argument => "UnrecognizedOption(" ++ Text.quoted argument ++ ")"
  | .missingArgument option code =>
      "MissingArgument \x7b option: " ++ Text.quoted option ++ ", code: " ++ toString code ++ " \x7d"
  | .invalidValue option value =>
      "InvalidValue \x7b option: " ++ Text.quoted option ++ ", value: " ++ Text.quoted value ++
        " \x7d"
  | .duplicateResponseFile file => "DuplicateResponseFile(" ++ Text.quoted file ++ ")"
  | .unreadableResponseFile file => "UnreadableResponseFile(" ++ Text.quoted file ++ ")"
  | .noSourceFiles => "NoSourceFiles"
  | .packageTool problem => "PackageTool(" ++ Text.quoted problem ++ ")"

end ArgumentError

end BatchCompiler

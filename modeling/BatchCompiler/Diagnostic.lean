import BatchCompiler.Path
import BatchCompiler.Text.Numeral

/-!
# Diagnostics

What is reported about a compilation, and the line in which it is shown.
-/

namespace BatchCompiler

/-- **Severity of a diagnostic.** -/
inductive Severity where
  | error
  | warning
  /-- More about the diagnostic before it. -/
  | note
  /-- The output backend lacks a capability; shown, never counted. -/
  | unsupported
deriving DecidableEq, Repr

/-- **A place in a source file.**  Lines count from one, columns are bytes from one.  The counts have
no bound: to cut them off at 32 bits is left out, and would differ beyond `2 ^ 32` lines, or bytes of
one line, only. -/
structure SourceLocation where
  path : Path
  line : Nat
  column : Nat
deriving DecidableEq, Repr

/-- **A diagnostic.** -/
structure Diagnostic where
  severity : Severity
  code : Int
  message : String
  location : Option SourceLocation
deriving DecidableEq, Repr

/-- `path(line,column)`. -/
def SourceLocation.text (l : SourceLocation) : String :=
  l.path.text ++ "(" ++ toString l.line ++ "," ++ toString l.column ++ ")"

namespace Diagnostic

/-- A code has at least four digits, unless it is negative. -/
def codeText (code : Int) : String :=
  if code < 0 then "CS" ++ toString code
  else "CS" ++ Text.padLeft 4 '0' (toString code)

/-- **The line that shows a diagnostic**, with or without its location. -/
def render (showLocations : Bool) (d : Diagnostic) : String :=
  let place := match d.location, showLocations with
    | some l, true => l.text ++ ": "
    | _, _ => ""
  match d.severity with
  | .error => place ++ "error " ++ codeText d.code ++ ": " ++ d.message
  | .warning => place ++ "warning " ++ codeText d.code ++ ": " ++ d.message
  | .note => d.message
  | .unsupported => place ++ "error: " ++ d.message

end Diagnostic

/-- Diagnostics one below the other. -/
def renderDiagnostics (showLocations : Bool) (ds : List Diagnostic) : String :=
  "\n".intercalate (ds.map (Diagnostic.render showLocations))

end BatchCompiler

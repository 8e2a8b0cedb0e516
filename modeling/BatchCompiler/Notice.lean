import BatchCompiler.Diagnostic.Engine
import BatchCompiler.Transcript

/-!
# Notices

Most operations read the file system, change a value of their own, and have something to tell: a
report for the diagnostics engine or an event for the transcript.  They return what they tell as a
list of notices; a `Desk` takes the notices in, in order.
-/

namespace BatchCompiler

/-- **Something an operation tells.** -/
inductive Notice where
  | report (r : Report)
  | event (e : Event)
deriving DecidableEq, Repr

namespace Notice

/-- A log record. -/
def log (level : LogLevel) (source : LogSource) (message : String) : Notice :=
  .event (.log ⟨level, source, message⟩)

/-- An error. -/
def error (code : Int) (message : String) : Notice := .report (.error code message)

/-- A warning of level one. -/
def warning (code : Int) (message : String) : Notice := .report (.warning code 1 message)

/-- The reports among some notices. -/
def reports (ns : List Notice) : List Report := ns.filterMap fun
  | .report r => some r
  | .event _ => none

/-- The events among some notices. -/
def events (ns : List Notice) : List Event := ns.filterMap fun
  | .report _ => none
  | .event e => some e

end Notice

/-- **Where notices go**: the engine and the transcript. -/
structure Desk where
  engine : Engine := {}
  transcript : Transcript := []
deriving DecidableEq

namespace Desk

/-- Take in one notice. -/
def take (d : Desk) : Notice → Desk
  | .report r => { d with engine := d.engine.submit r }
  | .event e => { d with transcript := d.transcript ++ [e] }

/-- Take in notices in order. -/
def takeAll (d : Desk) (ns : List Notice) : Desk := ns.foldl take d

end Desk

end BatchCompiler

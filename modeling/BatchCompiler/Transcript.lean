import BatchCompiler.Text.Numeral
import BatchCompiler.Text.Split

/-!
# Transcripts

What a run says, in order: lines on the two output channels, laps of the timer, log records, and the
moments at which more log records become visible.  A transcript is a plain list; which log records
are shown, and with what times, is decided when it is rendered.
-/

namespace BatchCompiler

/-- **Severity of a log record**, gravest first. -/
inductive LogLevel where
  | error
  | warn
  | info
  | debug
  | trace
deriving DecidableEq, Repr

namespace LogLevel

/-- Position in the order of the levels: the graver, the smaller. -/
def rank : LogLevel → Nat
  | .error => 1
  | .warn => 2
  | .info => 3
  | .debug => 4
  | .trace => 5

/-- The level's name in a record. -/
def label : LogLevel → String
  | .error => "ERROR"
  | .warn => "WARN"
  | .info => "INFO"
  | .debug => "DEBUG"
  | .trace => "TRACE"

/-- The less grave of two levels. -/
def max (a b : LogLevel) : LogLevel := if a.rank ≤ b.rank then b else a

end LogLevel

/-- **The part of the compiler a log record comes from.** -/
inductive LogSource where
  | invocation
  | options
  | colonOptions
  | responseFile
  | packageTool
  | sources
  | references
  | resources
  | pipeline
  | scanner
  | unitLoader
  | manifest
deriving DecidableEq, Repr

/-- How a record names its source. -/
def LogSource.label : LogSource → String
  | .invocation => "sharpc::driver"
  | .options => "sharpc::driver::options"
  | .colonOptions => "sharpc::driver::options::colon"
  | .responseFile => "sharpc::driver::response_file"
  | .packageTool => "sharpc::driver::pkg_config"
  | .sources => "sharpc::driver::sources"
  | .references => "sharpc::driver::references"
  | .resources => "sharpc::driver::resources"
  | .pipeline => "sharpc::driver::compiler"
  | .scanner => "sharpc::host::frontend"
  | .unitLoader => "sharpc::host::loader"
  | .manifest => "sharpc::host::manifest"

/-- **A log record.** -/
structure LogRecord where
  level : LogLevel
  source : LogSource
  message : String
deriving DecidableEq, Repr

/-- The record as a line: a line feed inside the message is followed by four blanks. -/
def LogRecord.line (r : LogRecord) : String :=
  "[" ++ Text.padRight 5 r.level.label ++ " " ++ r.source.label ++ "] " ++
    "\n    ".intercalate (Text.pieces (· = '\n') r.message)

/-- **One thing said.** -/
inductive Event where
  /-- A line on standard output. -/
  | output (line : String)
  /-- The time since the last lap, and what took it, on standard output. -/
  | lap (message : String)
  /-- Text on standard error, as it is. -/
  | problem (text : String)
  | log (record : LogRecord)
  /-- From here on records of this level are shown too. -/
  | verbosity (level : LogLevel)
deriving DecidableEq, Repr

/-- **A transcript**: events in the order in which they happened. -/
abbrev Transcript := List Event

/-- **Which log records are shown**: those up to `shown`, never beyond `ceiling`; `none` is silence. -/
structure LogFilter where
  ceiling : Option LogLevel
  shown : Option LogLevel
deriving DecidableEq, Repr

namespace LogFilter

/-- No log records at all. -/
def silent : LogFilter := ⟨none, none⟩

/-- Warnings, until the run asks for more. -/
def standard : LogFilter := ⟨some .trace, some .warn⟩

/-- A level fixed from outside, which the run cannot exceed. -/
def fixed (level : Option LogLevel) : LogFilter := ⟨level, level⟩

/-- The filter named in the environment: a level in any case, or `off`; an empty name is `error`. -/
def named (name : String) : LogFilter :=
  match name.toLower with
  | "" | "error" => fixed (some .error)
  | "warn" => fixed (some .warn)
  | "info" => fixed (some .info)
  | "debug" => fixed (some .debug)
  | "trace" => fixed (some .trace)
  | _ => silent

/-- The filter after the run asked for a level. -/
def raise (f : LogFilter) (level : LogLevel) : LogFilter :=
  { f with shown := some (match f.shown with
    | some old => old.max level
    | none => level) }

/-- A record of this level is shown. -/
def shows (f : LogFilter) (level : LogLevel) : Bool :=
  match f.ceiling, f.shown with
  | some c, some s => level.rank ≤ c.rank && level.rank ≤ s.rank
  | _, _ => false

end LogFilter

namespace Transcript

/-- **Standard output**, with `stamp` for the time of each lap. -/
def stdout (stamp : String) (t : Transcript) : String :=
  t.foldl (fun text event => match event with
    | .output line => text ++ line ++ "\n"
    | .lap message => text ++ stamp ++ " " ++ message ++ "\n"
    | _ => text) ""

/-- Standard error from a point where `filter` holds. -/
def stderrFrom (filter : LogFilter) (text : String) : Transcript → String
  | [] => text
  | .problem more :: rest => stderrFrom filter (text ++ more) rest
  | .log record :: rest =>
      stderrFrom filter (if filter.shows record.level then text ++ record.line ++ "\n" else text) rest
  | .verbosity level :: rest => stderrFrom (filter.raise level) text rest
  | _ :: rest => stderrFrom filter text rest

/-- **Standard error**: problems, and the log records that the filter shows. -/
def stderr (filter : LogFilter) (t : Transcript) : String := stderrFrom filter "" t

end Transcript

end BatchCompiler

import BatchCompiler.Options.Colon
import BatchCompiler.Options.Legacy

/-!
# The command line

Two dialects share one list of arguments.  An argument that starts with `-` is looked up among the
legacy options as it stands, then among the colon options with a `/` in place of the `-`.  After the
separator every argument is a source file.

Package options add arguments, and what a tool answers may hold package options again.  Nothing
bounds how often that happens, so reading takes the number of turns it may last.

## Main definitions

* `Reading.turn` — one argument
* `Reading.run` — arguments until none is left
* `CommandLine.parse` — a whole command line
-/

namespace BatchCompiler

/-- The argument looks like a path rather than like an option: a slash after its second character. -/
def looksLikePath (arg : String) : Bool := (arg.toList.drop 2).contains '/'

/-- **Handle one argument** while options are read. -/
def Handler.dispatch (env : Environment) (arg : String) : Handler Unit := do
  match arg.toList with
  | '-' :: rest =>
      if ← LegacyOption.tryRead env arg then return ()
      if ← ColonOption.tryRead env (String.ofList ('/' :: rest)) then return ()
      throw (.unrecognizedOption arg)
  | '/' :: _ =>
      if ← ColonOption.tryRead env arg then return ()
      if !looksLikePath arg then throw (.unrecognizedOption arg)
  | _ => pure ()
  Handler.tell [.log .trace .options ("source argument " ++ arg)]
  Handler.addSource env arg false

/-- Handle one argument, wherever it stands. -/
def Handler.handle (env : Environment) (arg : String) : Handler Unit := do
  if arg = "" then return ()
  else if arg = ResponseFile.separator then modify ({ · with optionsOpen := false })
  else if (← get).optionsOpen then Handler.dispatch env arg
  else
    Handler.tell [.log .trace .options ("source argument " ++ arg)]
    Handler.addSource env arg false

/-- There is something to compile: a source file, or a resource if the target needs no source. -/
def Config.hasInput (c : Config) : Bool :=
  !c.sources.isEmpty || (!c.target.needsSource && !c.resources.isEmpty)

namespace Reading

/-- **How reading ends.** -/
abbrev Ending := Except ArgumentError CommandOutcome

/-- The end of reading, when no argument is left. -/
def finish (r : Reading) : Ending :=
  if r.config.hasInput then .ok (.compile r.config) else .error .noSourceFiles

/-- **One turn**: read one argument, with the end of reading if it comes to it. -/
def turn (env : Environment) (r : Reading) : Option Ending × Reading :=
  match r.unread with
  | [] => (some r.finish, r)
  | arg :: rest =>
      match (Handler.handle env arg).run { r with unread := rest } with
      | (.error problem, r') => (some (.error problem), r')
      | (.ok (), r') =>
          match r'.request with
          | none => (none, r')
          | some request =>
              (some (.ok (.info request)),
                { r' with
                  desk := r'.desk.take
                    (.log .debug .options ("informational request " ++ request.logName)) })

/-- **Read to the end**, for so many turns at most. -/
def run (env : Environment) : (turns : Nat) → Reading → Option (Ending × Reading)
  | 0, _ => none
  | turns + 1, r =>
      match r.turn env with
      | (some ending, r') => some (ending, r')
      | (none, r') => run env turns r'

end Reading

namespace CommandLine

/-- A reading of expanded arguments from the start. -/
def start (config : Config) (desk : Desk) (expansion : ResponseFile.Outcome)
    (args : List String) : Reading :=
  { config := { config with responseFiles := expansion.seen }
    desk := desk.takeAll expansion.notices
    unread := args }

/-- **Read a command line** on top of a configuration: response files first, then argument by
argument, for so many turns at most. -/
def parse (env : Environment) (turns : Nat) (config : Config) (desk : Desk) (args : List String) :
    Option (Reading.Ending × Reading) :=
  let expansion := ResponseFile.expand env.files config.responseFiles args
  match expansion.result with
  | .error problem => some (.error problem, start config desk expansion [])
  | .ok args => Reading.run env turns (start config desk expansion args)

end CommandLine

end BatchCompiler

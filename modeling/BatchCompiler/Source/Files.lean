import BatchCompiler.FileSystem
import BatchCompiler.Notice
import BatchCompiler.Regex.Bundled
import BatchCompiler.Source.Glob

/-!
# Source files

The source files of a compilation, in the order in which they were first named.  A source argument
is a file, or a pattern that stands for the files of a directory, or of a whole tree.
-/

namespace BatchCompiler

/-- **The source files**, none twice. -/
structure SourceSet where
  files : List Path := []
deriving DecidableEq, Repr

namespace SourceSet

/-- The set has this file, under whatever spelling. -/
def contains (s : SourceSet) (p : Path) : Bool := s.files.any p.same

/-- The file named first, after which the output is called. -/
def first? (s : SourceSet) : Option Path := s.files.head?

/-- There is no file. -/
def isEmpty (s : SourceSet) : Bool := s.files.isEmpty

/-- The set with a file at its end, unless it is there already. -/
def insert (s : SourceSet) (p : Path) : SourceSet := if s.contains p then s else ⟨s.files ++ [p]⟩

/-- What is told about adding a file: a file named again is warned of. -/
def addNotice (s : SourceSet) (p : Path) : Notice :=
  if s.contains p then
    .warning 2002 ("Source file `" ++ p.text ++ "' specified multiple times")
  else .log .trace .sources ("adding source " ++ p.text)

/-- **Add one file.** -/
def add (s : SourceSet) (p : Path) : SourceSet × List Notice := (s.insert p, [s.addNotice p])

/-- **Directory and pattern** of a source argument: cut at its last slash, or else at its last
backslash; a bare pattern is about the current directory. -/
def directoryAndPattern (spec : String) : String × String :=
  let cut := (Text.cutAtLast? '/' spec).orElse fun _ => Text.cutAtLast? '\\' spec
  match cut with
  | some ("", pattern) => ("/", pattern)
  | some (directory, pattern) => (directory, pattern)
  | none => (".", spec)

/-- Children of a directory that are selected and are no directories. -/
def matching (selects : String → Bool) (children : List (String × Entry)) : List String :=
  (children.filter fun (name, entry) => entry != .directory && selects name).map Prod.fst

/-- Children of a directory that are directories. -/
def subdirectories (children : List (String × Entry)) : List String :=
  (children.filter fun (_, entry) => entry == .directory).map Prod.fst

/-- **What is met** when a directory is expanded. -/
inductive Met where
  | file (p : Path)
  /-- No directory is found under a path; of a subdirectory the path may be too long. -/
  | noDirectory (p : Path)
deriving DecidableEq, Repr

/-- **Expand a directory**: its matching files and then, with `recurse`, what is met in its
subdirectories one after another, `levels` directories deep.  Links are not descended into. -/
def expand (fs : FileSystem) (selects : String → Bool) (recurse : Bool) :
    (levels : Nat) → (directory : Path) → List Met
  | 0, _ => []
  | levels + 1, directory =>
      match fs.directory? directory with
      | none => [.noDirectory directory]
      | some at_ =>
          let children := fs.children at_
          (matching selects children).map (fun name => .file (directory.join name)) ++
            if recurse then
              (subdirectories children).flatMap fun name =>
                expand fs selects recurse levels (directory.join name)
            else []

/-- The report that a source argument stands for nothing. -/
def notFound (spec : String) : Notice :=
  .error 2001 ("Source file `" ++ spec ++ "' could not be found")

/-- Take in what is met when a source argument is expanded. -/
def takeIn (spec : String) (s : SourceSet) : Met → SourceSet × List Notice
  | .file p => s.add p
  | .noDirectory _ => (s, [notFound spec])

/-- Take in, in order, all that is met. -/
def takeInAll (spec : String) (s : SourceSet) : List Met → SourceSet × List Notice
  | [] => (s, [])
  | m :: rest =>
      let (set, told) := s.takeIn spec m
      let (final, more) := set.takeInAll spec rest
      (final, told ++ more)

/-- **Take in a source argument**: a literal file, or with a `*` in its last part, or with `recurse`,
a pattern, which the engine has to accept.  No location is deeper than the file system, so that many
levels reach everything. -/
def process (fs : FileSystem) (s : SourceSet) (spec : String) (recurse : Bool)
    (engine : Regex.Engine := .bundled) : SourceSet × List Notice :=
  let (directory, pattern) := directoryAndPattern spec
  if !pattern.toList.contains '*' && !recurse then s.add ⟨spec⟩
  else
    match engine.compile (Glob.expression pattern) with
    | .error problem =>
        (s, [.log .debug .sources ("bad wildcard " ++ pattern ++ ": " ++ problem), notFound spec])
    | .ok selects => s.takeInAll spec (expand fs selects recurse (fs.depth + 1) ⟨directory⟩)

end SourceSet

end BatchCompiler

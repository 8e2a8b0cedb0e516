import BatchCompiler.Host.Collaborators
import BatchCompiler.Invocation
import BatchCompiler.PackageTool.Shell

/-!
# The program

The command line around `Invocation.run`.  The program records the working directory and the names in
the library directory, runs on that record, then writes the files that have changed and prints what
was said.  Everything that is decided is decided by the run; here is only the way in and out.

Two environment variables matter: `SHARPC_LIB_DIR` is the directory of the system's libraries, the
program's own directory if it is not set, and `SHARPC_LOG` fixes which log records are shown.
-/

namespace BatchCompiler.Main

/-- The location of an absolute path. -/
def locationOf (absolute : String) : Location := (Text.pieces (· = '/') absolute).filter (· ≠ "")

/-- The absolute path of a location. -/
def absolutePath (at_ : Location) : String := "/" ++ "/".intercalate at_

/-- The disk's name for a location. -/
def onDisk (at_ : Location) : IO.FS.DirEntry := ⟨"/", "/".intercalate at_⟩

/-- A file system with the directories above a location. -/
def withDirectoriesAbove (fs : FileSystem) (at_ : Location) : FileSystem :=
  (List.range at_.length).foldl (fun fs n =>
    let above := at_.take n
    if (fs.entry? above).isSome then fs else fs.put above .directory) fs

/-- What an action on the disk gives, if it does not fail. -/
def attempt? {α : Type} (action : IO α) : BaseIO (Option α) := do
  match ← action.toBaseIO with
  | .ok a => return some a
  | .error _ => return none

/-- **Record what is at a location**, and all that is below a directory.  A link is recorded with the
place it leads to.  What cannot be read is left out. -/
partial def record (fs : FileSystem) (at_ : Location) : BaseIO FileSystem := do
  if (fs.entry? at_).isSome then return fs
  let place := (onDisk at_).path
  let kind? := (← attempt? place.symlinkMetadata).map IO.FS.Metadata.type
  match kind? with
  | some .dir =>
      let names := ((← attempt? place.readDir).getD #[]).toList.map (·.fileName)
      names.foldlM (fun fs name => record fs (at_ ++ [name])) (fs.put at_ .directory)
  | some .file =>
      match ← attempt? (IO.FS.readBinFile place) with
      | some bytes => return fs.put at_ (.file bytes.toList)
      | none => return fs
  | some .symlink =>
      match ← attempt? (IO.FS.realPath place) with
      | some target =>
          let target := toString target
          let there := locationOf target
          record (withDirectoriesAbove (fs.put at_ (.link target)) there) there
      | none => return fs
  | _ => return fs

/-- **Record a library directory.**  Of its files only the names matter, so they are recorded as
empty. -/
def recordLibrary (fs : FileSystem) (at_ : Location) : BaseIO FileSystem := do
  if (fs.entry? at_).isSome then return fs
  let files := ((← attempt? (onDisk at_).path.readDir).getD #[]).toList
  return files.foldl (fun fs file => fs.put (at_ ++ [file.fileName]) (.file []))
    ((withDirectoriesAbove fs at_).put at_ .directory)

/-- **The record a run works on.** -/
def snapshot (library : String) : IO FileSystem := do
  let current := locationOf (toString (← IO.currentDir))
  let fs : FileSystem := ⟨current, {}⟩
  let fs ← record (withDirectoriesAbove fs current) current
  match ← attempt? (IO.FS.realPath library) with
  | some directory => recordLibrary fs (locationOf (toString directory))
  | none => return fs

/-- **Write the files** that a run has changed. -/
def writeChanges (before after : FileSystem) : IO Unit :=
  after.entries.entries.forM fun (at_, entry) => do
    match entry, before.entry? at_ with
    | .file bytes, some (.file old) =>
        if !List.beq old bytes then IO.FS.writeBinFile (absolutePath at_) ⟨bytes.toArray⟩
    | .file bytes, _ => IO.FS.writeBinFile (absolutePath at_) ⟨bytes.toArray⟩
    | _, _ => pure ()

/-- The arguments that are read before a command line counts as endless. -/
def turns : Nat := 1000000

/-- The time shown for every lap: a run on a record takes none. -/
def lapStamp : String := "[00:000]"

end BatchCompiler.Main

open BatchCompiler

/-- Compile as the command line says. -/
def main (args : List String) : IO UInt32 := do
  let library ← match ← IO.getEnv "SHARPC_LIB_DIR" with
    | some directory => pure directory
    | none => pure (toString (← IO.appDir))
  let filter := ((← IO.getEnv "SHARPC_LOG").map LogFilter.named).getD .standard
  let files ← Main.snapshot library
  match Invocation.run (Host.collaborators ⟨library⟩) PackageTool.ordinaryTools Main.turns {} args
      ⟨{}, files, {}, []⟩ with
  | none =>
      (← IO.getStderr).putStrLn "error: the command line does not come to an end"
      return 1
  | some (status, bench) =>
      Main.writeChanges files bench.files
      (← IO.getStdout).putStr (bench.desk.transcript.stdout Main.lapStamp)
      (← IO.getStderr).putStr (bench.desk.transcript.stderr filter)
      return status.code.toUInt32

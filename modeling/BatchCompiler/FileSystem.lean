import BatchCompiler.OrderedMap
import BatchCompiler.Path
import BatchCompiler.Text.Utf8

/-!
# File systems

A file system is a finite table from locations (the names from the root down) to entries, with a
current directory.  Paths are resolved against it piece by piece: every piece but the last must be a
directory, links are followed up to a fixed number, and whatever goes wrong is a `Fault`.

## Main definitions

* `FileSystem.locate` — where a path leads, all links followed
* `FileSystem.read`, `FileSystem.write` — contents, `FileSystem.children` — a sorted listing

A failed `write` yields no file system, so nothing can have changed.
-/

namespace BatchCompiler

/-- **Why a file operation failed.** -/
inductive Fault where
  | notFound
  | permissionDenied
  | notDirectory
  | isDirectory
  | nameTooLong
  | tooManyLinks
  /-- The name holds a zero character. -/
  | zeroInName
  /-- A reason given by whoever performed the operation. -/
  | because (reason : String)
deriving DecidableEq, Repr

/-- The wording of a fault. -/
def Fault.message : Fault → String
  | .notFound => "No such file or directory (os error 2)"
  | .permissionDenied => "Permission denied (os error 13)"
  | .notDirectory => "Not a directory (os error 20)"
  | .isDirectory => "Is a directory (os error 21)"
  | .nameTooLong => "File name too long (os error 36)"
  | .tooManyLinks => "Too many levels of symbolic links (os error 40)"
  | .zeroInName => "file name contained an unexpected NUL byte"
  | .because reason => reason

/-- **A location**: the names from the root down. -/
abbrev Location := List String

/-- **What a location holds.** -/
inductive Entry where
  | file (bytes : List UInt8)
  | directory
  /-- A symbolic link, with its target as written. -/
  | link (target : String)
deriving DecidableEq, Repr

/-- **A file system.** -/
structure FileSystem where
  /-- The directory that relative paths start from. -/
  current : Location
  /-- Everything below the root. -/
  entries : OrderedMap Location Entry
deriving DecidableEq, Repr

namespace FileSystem

/-- The entry at a location; the root is a directory. -/
def entry? (fs : FileSystem) (at_ : Location) : Option Entry :=
  if at_ = [] then some .directory else fs.entries.get? at_

/-- A location that holds a directory. -/
def isDirectoryAt (fs : FileSystem) (at_ : Location) : Bool := fs.entry? at_ = some .directory

/-- How many links one path may lead through. -/
def linkLimit : Nat := 40

/-- How many bytes a name may have. -/
def nameLimit : Nat := 255

/-- How many bytes a path must stay below. -/
def pathLimit : Nat := 4096

/-- The path of the current directory. -/
def currentPath (fs : FileSystem) : Path := ⟨"/" ++ "/".intercalate fs.current⟩

/-- Where a path with these pieces starts. -/
def startOf (fs : FileSystem) (p : Path) : Location := if p.isAbsolute then [] else fs.current

/-- **Follow the pieces** of a path from a location, with `links` links still allowed. -/
def follow (fs : FileSystem) (links : Nat) (at_ : Location) (pieces : List String) :
    Except Fault Location :=
  match pieces with
  | [] => .ok at_
  | piece :: rest =>
      if !fs.isDirectoryAt at_ then .error .notDirectory
      else if piece = "" ∨ piece = "." then follow fs links at_ rest
      else if piece = ".." then follow fs links at_.dropLast rest
      else if nameLimit < piece.utf8ByteSize then .error .nameTooLong
      else
        match fs.entry? (at_ ++ [piece]) with
        | none => .error .notFound
        | some (.link target) =>
            match links with
            | 0 => .error .tooManyLinks
            | links + 1 =>
                let path : Path := ⟨target⟩
                follow fs links (if path.isAbsolute then [] else at_) (path.pieces ++ rest)
        | some _ => follow fs links (at_ ++ [piece]) rest
termination_by (links, pieces.length)

/-- A path no file can have, whatever the file system holds. -/
def refused? (p : Path) : Option Fault :=
  if p.text.toList.contains '\x00' then some .zeroInName
  else if p.text = "" then some .notFound
  else if pathLimit ≤ p.text.utf8ByteSize then some .nameTooLong
  else none

/-- **Where a path leads**, all links followed. -/
def locate (fs : FileSystem) (p : Path) : Except Fault Location :=
  match refused? p with
  | some fault => .error fault
  | none => fs.follow linkLimit (fs.startOf p) p.pieces

/-- What a path leads to, all links followed. -/
def lookup (fs : FileSystem) (p : Path) : Except Fault Entry :=
  match fs.locate p with
  | .error fault => .error fault
  | .ok at_ =>
      match fs.entry? at_ with
      | some entry => .ok entry
      | none => .error .notFound

/-- The path leads to something. -/
def pathExists (fs : FileSystem) (p : Path) : Bool :=
  match fs.lookup p with
  | .ok _ => true
  | .error _ => false

/-- The path leads to a regular file. -/
def isFile (fs : FileSystem) (p : Path) : Bool :=
  match fs.lookup p with
  | .ok (.file _) => true
  | _ => false

/-- The path leads to a directory. -/
def isDirectory (fs : FileSystem) (p : Path) : Bool :=
  match fs.lookup p with
  | .ok .directory => true
  | _ => false

/-- **The directory that a path leads to.** -/
def directory? (fs : FileSystem) (p : Path) : Option Location :=
  match fs.locate p with
  | .ok at_ => if fs.isDirectoryAt at_ then some at_ else none
  | .error _ => none

/-- **The bytes of a file.** -/
def read (fs : FileSystem) (p : Path) : Except Fault (List UInt8) :=
  match fs.lookup p with
  | .error fault => .error fault
  | .ok (.file bytes) => .ok bytes
  | .ok _ => .error .isDirectory

/-- The text of a file; `none` when it cannot be read or is not UTF-8. -/
def readText? (fs : FileSystem) (p : Path) : Option String :=
  match fs.read p with
  | .ok bytes => Text.Utf8.decode? bytes
  | .error _ => none

/-- **Where a file written under these pieces ends up.**  Unlike `follow` the last piece need not
exist, and must not be followed by a slash. -/
def destinationFrom (fs : FileSystem) (links : Nat) (at_ : Location) (pieces : List String) :
    Except Fault Location :=
  match pieces with
  | [] => .error .isDirectory
  | piece :: rest =>
      if !fs.isDirectoryAt at_ then .error .notDirectory
      else if piece = "" ∨ piece = "." then destinationFrom fs links at_ rest
      else if piece = ".." then destinationFrom fs links at_.dropLast rest
      else if nameLimit < piece.utf8ByteSize then .error .nameTooLong
      else if rest ≠ [] ∧ rest.all (· = "") then .error .isDirectory
      else
        match fs.entry? (at_ ++ [piece]), rest with
        | some (.link target), rest =>
            match links with
            | 0 => .error .tooManyLinks
            | links + 1 =>
                let path : Path := ⟨target⟩
                destinationFrom fs links (if path.isAbsolute then [] else at_)
                  (path.pieces ++ rest)
        | none, [] => .ok (at_ ++ [piece])
        | some (.file _), [] => .ok (at_ ++ [piece])
        | some .directory, [] => .error .isDirectory
        | none, _ :: _ => .error .notFound
        | some _, rest => destinationFrom fs links (at_ ++ [piece]) rest
termination_by (links, pieces.length)

/-- Where a file written under a path ends up. -/
def destination (fs : FileSystem) (p : Path) : Except Fault Location :=
  match refused? p with
  | some fault => .error fault
  | none => fs.destinationFrom linkLimit (fs.startOf p) p.pieces

/-- The file system with `entry` at a location. -/
def put (fs : FileSystem) (at_ : Location) (entry : Entry) : FileSystem :=
  { fs with entries := fs.entries.put at_ entry }

/-- **Write a file**, over what it held before. -/
def write (fs : FileSystem) (p : Path) (bytes : List UInt8) : Except Fault FileSystem :=
  match fs.destination p with
  | .error fault => .error fault
  | .ok at_ => .ok (fs.put at_ (.file bytes))

/-- The entry's name in the directory at `at_`, if it lies directly there. -/
def nameIn? (at_ other : Location) : Option String :=
  match other.reverse with
  | name :: above => if above.reverse = at_ then some name else none
  | [] => none

/-- **A directory's entries** by name, in the order of the names' bytes. -/
def children (fs : FileSystem) (at_ : Location) : List (String × Entry) :=
  (fs.entries.entries.filterMap fun (other, entry) => (nameIn? at_ other).map (·, entry)).mergeSort
    fun a b => !(b.1 < a.1)

/-- The length of the longest location. -/
def depth (fs : FileSystem) : Nat := fs.entries.keys.foldl (fun d at_ => max d at_.length) 0

end FileSystem

end BatchCompiler

import BatchCompiler.Text.Split

/-!
# Paths

A path is kept as it was written and shown as it was written; what it *denotes* is its list of
components.  Two paths are the same when their components agree, so a doubled slash, a slash at the
end and a `.` inside do not count, while a leading `.` does.

## Main definitions

* `Path.components` — the view on which equality and file names rest
* `Path.join`, `Path.parent?`, `Path.withFileName` — built on the written form, so that what they do
  not change stays as it was written
-/

namespace BatchCompiler

/-- **A path**, as written. -/
structure Path where
  /-- The written form. -/
  text : String
deriving DecidableEq, Repr, Inhabited

namespace Path

/-- **A component** of a path. -/
inductive Component where
  | root
  /-- A leading `.`. -/
  | current
  | parent
  | name (text : String)
deriving DecidableEq, Repr

/-- What lies between the slashes, as written. -/
def pieces (p : Path) : List String := Text.pieces (· = '/') p.text

/-- A path from the root. -/
def isAbsolute (p : Path) : Bool := p.text.toList.head? = some '/'

/-- The component a piece stands for, when it is not the first one. -/
def componentOf? (piece : String) : Option Component :=
  if piece = "" ∨ piece = "." then none
  else if piece = ".." then some .parent
  else some (.name piece)

/-- **Components** of a path. -/
def components (p : Path) : List Component :=
  match p.pieces with
  | [] => []
  | first :: rest =>
      (if p.isAbsolute then [Component.root]
       else if first = "." then [Component.current]
       else (componentOf? first).toList) ++ rest.filterMap componentOf?

/-- **The same path**: equal components. -/
def same (p q : Path) : Bool := p.components = q.components

/-- The last component, when it is a name. -/
def fileName? (p : Path) : Option String :=
  match p.components.getLast? with
  | some (.name text) => some text
  | _ => none

/-- A file name cut at its last dot: stem and extension.  A dot in front cuts nothing. -/
def cutName (name : String) : String × Option String :=
  match Text.cutAtLast? '.' name with
  | some (stem, extension) => if stem = "" then (name, none) else (stem, some extension)
  | none => (name, none)

/-- The file name without its extension. -/
def fileStem? (p : Path) : Option String := p.fileName?.map fun name => (cutName name).1

/-- What follows the last dot of the file name. -/
def extension? (p : Path) : Option String := p.fileName?.bind fun name => (cutName name).2

/-- Pieces behind the first one, without those at the end that stand for nothing. -/
def dropIdleEnd (rest : List String) : List String :=
  (rest.reverse.dropWhile fun piece => (componentOf? piece).isNone).reverse

/-- **The path without its last component**; the root and the empty path have none. -/
def parent? (p : Path) : Option Path :=
  match p.pieces with
  | [] => none
  | first :: rest =>
      match dropIdleEnd rest with
      | [] => if first = "" then none else some ⟨""⟩
      | kept =>
          match first, dropIdleEnd kept.dropLast with
          | "", [] => some ⟨"/"⟩
          | _, shorter => some ⟨"/".intercalate (first :: shorter)⟩

/-- **`q` seen from `p`**: an absolute `q` replaces `p`, any other is written behind it. -/
def join (p : Path) (q : String) : Path :=
  if q.toList.head? = some '/' then ⟨q⟩
  else if p.text = "" ∨ p.text.toList.getLast? = some '/' then ⟨p.text ++ q⟩
  else ⟨p.text ++ "/" ++ q⟩

/-- **The neighbour called `name`**: the last name is replaced, or `name` added if there is none. -/
def withFileName (p : Path) (name : String) : Path :=
  if p.fileName?.isSome then (p.parent?.getD ⟨""⟩).join name else p.join name

/-- The file name for messages: the whole path when it has none. -/
def fileNameOrText (p : Path) : String := p.fileName?.getD p.text

end Path

end BatchCompiler

import BatchCompiler.Notice
import BatchCompiler.OrderedMap
import BatchCompiler.Text.LowerCase

/-!
# Resources

Files that go into the output under a name of their own, or that the output refers to.
-/

namespace BatchCompiler

/-- **How a resource goes into the output.** -/
inductive ResourceMode where
  /-- Its bytes are copied. -/
  | embedded
  /-- Only its file name is recorded. -/
  | linked
deriving DecidableEq, Repr

/-- **Who may use a resource.** -/
inductive Visibility where
  | isPublic
  | isPrivate
deriving DecidableEq, Repr

/-- **A resource.** -/
structure Resource where
  name : String
  file : Path
  mode : ResourceMode
  visibility : Visibility
deriving DecidableEq, Repr

/-- **The resources of a compilation**, by name, in the order in which they were named. -/
structure ResourceTable where
  entries : OrderedMap String Resource := {}
  /-- They have been handed to the output; that happens once. -/
  emitted : Bool := false
deriving DecidableEq, Repr

namespace ResourceTable

/-- **Add a resource**; a name that is taken is reported and keeps what it has. -/
def add (t : ResourceTable) (r : Resource) : ResourceTable × List Notice :=
  if t.entries.contains r.name then
    (t, [.error 1508 ("The resource identifier `" ++ r.name ++
      "' has already been used in this assembly")])
  else ({ t with entries := t.entries.put r.name r }, [])

/-- The resource of a name. -/
def get? (t : ResourceTable) (name : String) : Option Resource := t.entries.get? name

/-- Resources in order. -/
def toList (t : ResourceTable) : List Resource := t.entries.values

/-- There is no resource. -/
def isEmpty (t : ResourceTable) : Bool := t.entries.isEmpty

end ResourceTable

/-- **What a resource option says**: a file, a name, and who may use it. -/
structure ResourceSpec where
  file : String
  name : String
  visibility : Visibility
deriving DecidableEq, Repr

namespace ResourceSpec

/-- **Read `FILE[,NAME[,public|private]]`.**  The name is the file's own unless given; what is not of
this form is reported. -/
def parse (option value : String) : Option ResourceSpec × List Notice :=
  match Text.pieces (· = ',') value with
  | [file] => (some ⟨file, (⟨file⟩ : Path).fileNameOrText, .isPublic⟩, [])
  | [file, name] => (some ⟨file, name, .isPublic⟩, [])
  | [file, name, visibility] =>
      match Text.lowerCase visibility with
      | "public" => (some ⟨file, name, .isPublic⟩, [])
      | "private" => (some ⟨file, name, .isPrivate⟩, [])
      | _ => (none, [.error 1906 ("Invalid resource visibility option `" ++ visibility ++
          "'. Use either `public' or `private' instead")])
  | _ => (none, [.error (-2005) ("Wrong number of arguments for option `" ++ option ++ "'")])

end ResourceSpec

end BatchCompiler

import BatchCompiler.Diagnostic
import BatchCompiler.OrderedMap

/-!
# The program tree

What the frontend finds in the source files: the types they declare, in the order of the declaration
table, and the methods at which a program could start.
-/

namespace BatchCompiler

/-- **Kind of a declared type.** -/
inductive DeclarationKind where
  | «class»
  | struct
  | interface
  | enum
  | delegate
deriving DecidableEq, Repr

namespace DeclarationKind

/-- How log records show a kind. -/
def logName : DeclarationKind → String
  | .class => "Class"
  | .struct => "Struct"
  | .interface => "Interface"
  | .enum => "Enum"
  | .delegate => "Delegate"

/-- Only classes and structs can declare the method at which a program starts. -/
def canHostEntryPoint : DeclarationKind → Bool
  | .class | .struct => true
  | _ => false

end DeclarationKind

/-- **A declared type.** -/
structure TypeDeclaration where
  name : String
  kind : DeclarationKind
  location : SourceLocation
deriving DecidableEq, Repr

/-- **An entry point**: a method that may start the program. -/
structure EntryPoint where
  declaringType : String
  method : String
deriving DecidableEq, Repr

/-- **The program tree.** -/
structure ProgramTree where
  /-- Files handed to the frontend, in order. -/
  files : List Path := []
  /-- The declaration table, by qualified name. -/
  declarations : OrderedMap String TypeDeclaration := {}
  /-- Methods at which the program may start, in the order in which they were found. -/
  candidates : List EntryPoint := []
deriving DecidableEq, Repr

namespace ProgramTree

/-- The declaration of a qualified name. -/
def declaration? (t : ProgramTree) (name : String) : Option TypeDeclaration :=
  t.declarations.get? name

/-- The tree with its declarations in the order of their names' bytes. -/
def sortDeclarations (t : ProgramTree) : ProgramTree :=
  { t with declarations := ⟨t.declarations.entries.mergeSort fun a b => !(b.1 < a.1)⟩ }

end ProgramTree

end BatchCompiler

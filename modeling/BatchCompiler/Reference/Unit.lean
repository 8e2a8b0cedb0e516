import BatchCompiler.Path

/-!
# Units

A unit is a library or a module that has been loaded, with the root identifiers it exports.
-/

namespace BatchCompiler

/-- **A loaded library or module.** -/
structure ResolvedUnit where
  name : String
  path : Path
  /-- Identifiers of the root namespace that the unit exports. -/
  identifiers : List String
  isModule : Bool
deriving DecidableEq, Repr

/-- **Why a unit could not be loaded**, with a log of the attempt where there is one. -/
inductive LoadError where
  | notFound (path : Path) (log : String)
  | notAUnit (path : Path)
  | badImage (path : Path) (log : String)
deriving DecidableEq, Repr

/-- The wording. -/
def LoadError.message : LoadError → String
  | .notFound path _ => "`" ++ path.text ++ "' not found"
  | .notAUnit path => "`" ++ path.text ++ "' is a module, not a unit"
  | .badImage path _ => "`" ++ path.text ++ "' has a bad image"

end BatchCompiler

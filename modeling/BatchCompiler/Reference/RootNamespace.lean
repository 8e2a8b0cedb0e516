import BatchCompiler.OrderedMap
import BatchCompiler.Reference.Unit

/-!
# The root namespace

Loaded units and where they are visible: a unit bound without an alias joins the global root, one
bound under an alias is reached through it alone.  Units are known by their position in load order.
-/

namespace BatchCompiler

/-- **The root namespace.** -/
structure RootNamespace where
  /-- Loaded units, in load order. -/
  units : List ResolvedUnit := []
  /-- Units of the global root, in the order in which they joined it. -/
  global : List Nat := []
  aliases : OrderedMap String Nat := {}
  /-- Modules linked into the output. -/
  modules : List ResolvedUnit := []
deriving DecidableEq, Repr

namespace RootNamespace

/-- Units of the global root. -/
def globalUnits (r : RootNamespace) : List ResolvedUnit := r.global.filterMap (r.units[·]?)

/-- The unit bound under an alias. -/
def aliased? (r : RootNamespace) (alias_ : String) : Option ResolvedUnit :=
  (r.aliases.get? alias_).bind (r.units[·]?)

/-- The unit exports an identifier. -/
def exports (identifier : String) (u : ResolvedUnit) : Bool := u.identifiers.contains identifier

/-- **The unit that provides an identifier**: of the global units that export it the one that joined
last, so the core library comes after all others. -/
def lookup? (r : RootNamespace) (identifier : String) : Option ResolvedUnit :=
  r.globalUnits.reverse.find? (exports identifier)

/-- The position of the first unit of a name. -/
def position? (r : RootNamespace) (name : String) : Option Nat :=
  r.units.findIdx? (·.name = name)

/-- The root with one more unit, and the unit's position. -/
def addUnit (r : RootNamespace) (u : ResolvedUnit) : RootNamespace × Nat :=
  ({ r with units := r.units ++ [u] }, r.units.length)

/-- **Bind a unit** under an alias, or into the global root. -/
def bind (r : RootNamespace) (position : Nat) : Option String → RootNamespace
  | some alias_ => { r with aliases := r.aliases.put alias_ position }
  | none => if position ∈ r.global then r else { r with global := r.global ++ [position] }

/-- The root with one more module. -/
def addModule (r : RootNamespace) (u : ResolvedUnit) : RootNamespace :=
  { r with modules := r.modules ++ [u] }

end RootNamespace

end BatchCompiler

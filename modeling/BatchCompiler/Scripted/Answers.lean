import BatchCompiler.Collaborator.Basic
import BatchCompiler.Scripted.Collaborators

/-!
# Scripted answers about units

A unit loader and an output backend that answer from tables: what a path, a name or a module is.
-/

namespace BatchCompiler.Scripted

/-- **What a table says about a unit.** -/
inductive UnitAnswer where
  | unit (name : String) (identifiers : List String)
  | bad (log : String)
  /-- A bad image that is a well-formed module. -/
  | badModule (log : String)
  | notAUnit
  | none (log : String)
deriving DecidableEq, Repr

/-- The answer for a path or a name. -/
def UnitAnswer.load (path : Path) (isModule : Bool) : UnitAnswer → Except LoadError ResolvedUnit
  | .unit name identifiers => .ok ⟨name, path, identifiers, isModule⟩
  | .bad log => .error (.badImage path log)
  | .badModule log => .error (.badImage path log)
  | .notAUnit => .error (.notAUnit path)
  | .none log => .error (.notFound path log)

/-- **Tables of answers.**  What is in no table is not found. -/
structure UnitTables where
  paths : List (Path × UnitAnswer) := []
  names : List (String × UnitAnswer) := []
  modules : List (Path × UnitAnswer) := []

namespace UnitTables

/-- The answer for a path. -/
def answerAt (table : List (Path × UnitAnswer)) (path : Path) : UnitAnswer :=
  ((table.find? fun entry => entry.1.same path).map Prod.snd).getD (.none "")

/-- The path is a bad image that is a well-formed module. -/
def isModule (t : UnitTables) (path : Path) : Bool :=
  match answerAt t.paths path with
  | .badModule _ => true
  | _ => false

/-- The loader that answers from tables. -/
def loader {σ : Type} (t : UnitTables) : UnitLoader σ where
  loadFrom path := return (answerAt t.paths path).load path false
  loadByName name := return ((t.names.lookup name).getD (.none "")).load ⟨name⟩ false
  probeModule path := return t.isModule path
  systemDirectory := return ⟨""⟩

/-- The output backend that answers from tables. -/
def output (t : UnitTables) : OutputBackend OutputRecord :=
  { Scripted.output {} with
    addModule := fun path => return (answerAt t.modules path).load path true }

end UnitTables

end BatchCompiler.Scripted

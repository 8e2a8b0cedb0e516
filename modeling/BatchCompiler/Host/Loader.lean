import BatchCompiler.Collaborator.Basic
import BatchCompiler.Text.LowerCase

/-!
# Units from files

A file is a unit by its extension alone: `.dll` and `.exe` files are libraries, `.netmodule` files
are modules, and everything else is a bad image.  A unit exports one root identifier, its name up to
the first dot.
-/

namespace BatchCompiler.Host

/-- The extension in small letters; empty when there is none. -/
def extensionOf (path : Path) : String := Text.lowerCase (path.extension?.getD "")

/-- **The unit in a file.** -/
def describe (path : Path) (isModule : Bool) : ResolvedUnit :=
  let name := path.fileStem?.getD ""
  let root := (Text.cutAtFirst? '.' name).elim name Prod.fst
  ⟨name, path, [root], isModule⟩

/-- The log of an attempt that found no file. -/
def probeLog (path : Path) : String := "  probed " ++ path.text ++ "\n"

/-- **Load the unit in a file.** -/
def loadUnit (files : FileSystem) (path : Path) : Except LoadError ResolvedUnit :=
  if !files.isFile path then .error (.notFound path (probeLog path))
  else
    match extensionOf path with
    | "dll" | "exe" => .ok (describe path false)
    | "netmodule" => .error (.badImage path "")
    | other => .error (.badImage path ("  unknown image type `" ++ other ++ "'\n"))

/-- **Link the module in a file.** -/
def loadModuleFile (files : FileSystem) (path : Path) : Except LoadError ResolvedUnit :=
  if !files.isFile path then .error (.notFound path (probeLog path))
  else if extensionOf path ≠ "netmodule" then .error (.badImage path "")
  else .ok (describe path true)

/-- **The loader of units from files.**  There is nothing to load by name alone: the search along
the link path does that work. -/
def fileLoader {σ : Type} (systemDirectory : Path) : UnitLoader σ where
  loadFrom path := do
    Act.log .trace .unitLoader ("probing " ++ path.text)
    return loadUnit (← Act.files) path
  loadByName name := return .error (.notFound ⟨name⟩ "")
  probeModule path := do
    return (← Act.files).isFile path && extensionOf path = "netmodule"
  systemDirectory := return systemDirectory

end BatchCompiler.Host

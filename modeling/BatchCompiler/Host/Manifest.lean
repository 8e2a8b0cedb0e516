import BatchCompiler.Host.Loader
import BatchCompiler.Text.Json

/-!
# The manifest

In place of a binary the host writes a manifest: a JSON document of everything the compiler asked the
output to hold.

## Main definitions

* `Manifest` and `Manifest.text` — the record, and what is written
* `manifestWriter` — the output backend
-/

namespace BatchCompiler.Host

/-- **A resource in the manifest.**  An embedded one has a size, a linked one a file. -/
structure ManifestResource where
  name : String
  size : Option Nat
  file : Option String
  isPrivate : Bool
deriving DecidableEq, Repr

/-- **The entry point in the manifest.** -/
structure ManifestEntryPoint where
  declaringType : String
  method : String
  subsystem : Subsystem
deriving DecidableEq, Repr

/-- **A manifest.** -/
structure Manifest where
  output : Path := ⟨""⟩
  debugInfo : Bool := false
  moduleOnly : Bool := false
  modules : List String := []
  resources : List ManifestResource := []
  nativeResource : Option Path := none
  versionInfo : Bool := false
  icon : Option Path := none
  entryPoint : Option ManifestEntryPoint := none
deriving DecidableEq, Repr

open Text (Json)

/-- A resource as a document. -/
def ManifestResource.json (r : ManifestResource) : Json :=
  .object [("name", .text r.name), ("size", (r.size.map Json.number).getD .null),
    ("file", .optionalText r.file), ("private", .bool r.isPrivate)]

/-- An entry point as a document. -/
def ManifestEntryPoint.json (e : ManifestEntryPoint) : Json :=
  .object [("declaring_type", .text e.declaringType), ("method", .text e.method),
    ("subsystem", .text e.subsystem.label)]

namespace Manifest

/-- The manifest as a document. -/
def json (m : Manifest) : Json :=
  .object [("output", .text m.output.text), ("debug_info", .bool m.debugInfo),
    ("module_only", .bool m.moduleOnly), ("modules", .list (m.modules.map Json.text)),
    ("resources", .list (m.resources.map ManifestResource.json)),
    ("native_resource", .optionalText (m.nativeResource.map Path.text)),
    ("version_info", .bool m.versionInfo), ("icon", .optionalText (m.icon.map Path.text)),
    ("entry_point", (m.entryPoint.map ManifestEntryPoint.json).getD .null)]

/-- **What is written.** -/
def text (m : Manifest) : String := m.json.pretty

/-- The manifest with one more resource. -/
def addResource (m : Manifest) (r : ManifestResource) : Manifest :=
  { m with resources := m.resources ++ [r] }

end Manifest

/-- The directory that must exist for a file to be written. -/
def requiredDirectory? (path : Path) : Option Path :=
  path.parent?.bind fun directory => if directory.text = "" then none else some directory

/-- **Start a manifest** for an output, whose directory must exist. -/
def initManifest (path : Path) (debug : Bool) : Act Manifest (Except Fault Unit) := do
  match requiredDirectory? path with
  | some directory =>
      if !(← Act.files).isDirectory directory then
        return .error (.because ("directory `" ++ directory.text ++ "' does not exist"))
  | none => pure ()
  Act.change fun _ => { output := path, debugInfo := debug }
  return .ok ()

/-- Record a file that must be there. -/
def recordFile (path : Path) (record : Manifest → Manifest) : Act Manifest (Except Fault Unit) := do
  match (← Act.files).lookup path with
  | .error fault => return .error fault
  | .ok _ =>
      Act.change record
      return .ok ()

/-- **Write the manifest.** -/
def saveManifest (path : Path) (debug : Bool) : Act Manifest (Except Fault Unit) := do
  Act.change ({ · with debugInfo := debug })
  let manifest ← Act.own
  match ← Act.write path (Text.Utf8.encode manifest.text) with
  | .error fault => return .error fault
  | .ok () =>
      Act.log .debug .manifest ("manifest written to " ++ path.text)
      return .ok ()

/-- **The output backend that writes a manifest.** -/
def manifestWriter : OutputBackend Manifest where
  init := initManifest
  supports _ := return true
  markModuleOnly := Act.change ({ · with moduleOnly := true })
  addModule path := do
    match loadModuleFile (← Act.files) path with
    | .error problem => return .error problem
    | .ok unit =>
        Act.change fun m => { m with modules := m.modules ++ [unit.name] }
        return .ok unit
  resolveAttributes _ _ := return []
  isClsCompliant := return false
  embedResource name bytes visibility :=
    Act.change (·.addResource ⟨name, some bytes.length, none, visibility = .isPrivate⟩)
  linkResource name file visibility :=
    Act.change (·.addResource ⟨name, none, some file, visibility = .isPrivate⟩)
  defineNativeResource path := recordFile path ({ · with nativeResource := some path })
  defineVersionInfo := Act.change ({ · with versionInfo := true })
  defineIcon path := recordFile path ({ · with icon := some path })
  defineEntryPoint entry subsystem :=
    Act.change ({ · with entryPoint := some ⟨entry.declaringType, entry.method, subsystem⟩ })
  save := saveManifest

end BatchCompiler.Host

import BatchCompiler.Collaborator.Job

/-!
# Emitting resources

Every resource is handed to the output backend, or it is reported why not.  This happens once; one
resource that fails does not affect the others.
-/

namespace BatchCompiler.ResourceTable

variable {σ : Type}

/-- The report about a file that cannot be read. -/
def unreadable (file : Path) : Notice :=
  .error 1566 ("Error reading resource file `" ++ file.text ++ "'")

/-- **Hand one resource to the backend**; `true` if it was taken. -/
def emitOne (output : OutputBackend σ) (r : Resource) : Job σ Bool := do
  let files ← Job.files
  if !files.pathExists r.file then
    Job.tell [unreadable r.file]
    return false
  match r.mode with
  | .embedded =>
      if !(← Job.ask (.supports .resourceEmbedding) (output.supports .resourceEmbedding)) then
        Job.report (.missingSupport "resource embedding")
        return false
      match (← Job.files).read r.file with
      | .ok bytes =>
          Job.ask (.embedResource r.name bytes r.visibility)
            (output.embedResource r.name bytes r.visibility)
          return true
      | .error fault =>
          Job.tell [.log .warn .resources ("reading " ++ r.file.text ++ " failed: " ++
            fault.message), unreadable r.file]
          return false
  | .linked =>
      let file := r.file.fileNameOrText
      Job.ask (.linkResource r.name file r.visibility) (output.linkResource r.name file r.visibility)
      return true

/-- Hand resources over in order; how many were taken. -/
def emitEach (output : OutputBackend σ) : List Resource → Job σ Nat
  | [] => return 0
  | r :: rest => do
      let taken ← emitOne output r
      let others ← emitEach output rest
      return (if taken then 1 else 0) + others

/-- **Hand all resources over**, the first time; how many were taken. -/
def emitAll (output : OutputBackend σ) (t : ResourceTable) : Job σ (Nat × ResourceTable) := do
  if t.emitted then
    Job.log .debug .resources "resources already emitted"
    return (0, t)
  let count ← emitEach output t.toList
  return (count, { t with emitted := true })

end BatchCompiler.ResourceTable

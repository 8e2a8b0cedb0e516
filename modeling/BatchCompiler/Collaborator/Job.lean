import BatchCompiler.Collaborator.Basic
import BatchCompiler.Notice

/-!
# Jobs

A job is a piece of the compiler's own work that may call collaborators.  Its state, the bench, keeps
a journal of the calls, each with the number of errors counted by then and with whether it was
granted, so that it can be said when which collaborator was called, and what became of it.

## Main definitions

* `Answer` — answers that may refuse what was asked for
* `Call`, `JournalEntry` — what the journal holds
* `Bench`, `Job` — the state of a job
* `Job.ask`, `Job.consult` — the only two ways to a collaborator
-/

namespace BatchCompiler

/-- **What an answer says to the request**: it grants it, unless it is of a kind that can refuse. -/
class Answer (α : Type) where
  granted : α → Bool

instance (priority := low) {α : Type} : Answer α := ⟨fun _ => true⟩

/-- A fault refuses. -/
instance {ε α : Type} : Answer (Except ε α) := ⟨Except.toBool⟩

/-- A no refuses. -/
instance : Answer Bool := ⟨id⟩

/-- What comes besides an answer does not matter. -/
instance {α β : Type} [Answer α] : Answer (α × β) := ⟨fun answer => Answer.granted answer.1⟩

/-- **A call** of a collaborator. -/
inductive Call where
  | tokens (path : Path)
  | parse (path : Path) (text : String)
  | resolveCoreTypes
  | resolveTree
  | populate (bootstrap : Bool)
  | defineTypes
  | verifyUsing
  | closeTypes
  | emit
  | init (path : Path) (debug : Bool)
  | supports (capability : Capability)
  | markModuleOnly
  | addModule (path : Path)
  | resolveAttributes
  | isClsCompliant
  | embedResource (name : String) (bytes : List UInt8) (visibility : Visibility)
  | linkResource (name file : String) (visibility : Visibility)
  | defineNativeResource (path : Path)
  | defineVersionInfo
  | defineIcon (path : Path)
  | defineEntryPoint (entry : EntryPoint) (subsystem : Subsystem)
  | save (path : Path) (debug : Bool)
  | loadFrom (path : Path)
  | loadByName (name : String)
  | probeModule (path : Path)
  | systemDirectory
  | verifyCompliance
  | exportDocs (path : Path)
deriving DecidableEq, Repr

/-- The collaborator that a call is for. -/
def Call.role : Call → Role
  | .tokens _ | .parse .. => .frontend
  | .resolveCoreTypes | .resolveTree | .populate _ | .defineTypes | .verifyUsing | .closeTypes =>
      .types
  | .emit => .codegen
  | .init .. | .supports _ | .markModuleOnly | .addModule _ | .resolveAttributes
  | .isClsCompliant | .embedResource .. | .linkResource .. | .defineNativeResource _
  | .defineVersionInfo | .defineIcon _ | .defineEntryPoint .. | .save .. => .output
  | .loadFrom _ | .loadByName _ | .probeModule _ | .systemDirectory => .loader
  | .verifyCompliance => .compliance
  | .exportDocs _ => .docs

/-- **What is noted about a call**: how many errors had been counted when it was made, and whether its
answer granted it. -/
structure CallRecord where
  errors : Nat
  granted : Bool
deriving DecidableEq, Repr

/-- **An entry of the journal**: a call, and what is noted about it. -/
structure JournalEntry where
  call : Call
  record : CallRecord
deriving DecidableEq, Repr

namespace JournalEntry

/-- Errors counted when the call was made. -/
abbrev errors (e : JournalEntry) : Nat := e.record.errors

/-- The answer granted the call. -/
abbrev granted (e : JournalEntry) : Bool := e.record.granted

end JournalEntry

/-- **What a job works on**: the collaborators' state, the file system, the desk that takes notices,
and the journal. -/
structure Bench (σ : Type) where
  own : σ
  files : FileSystem
  desk : Desk := {}
  journal : List JournalEntry := []

/-- The engine on a bench. -/
abbrev Bench.engine {σ : Type} (b : Bench σ) : Engine := b.desk.engine

/-- **A job**, with its result. -/
abbrev Job (σ α : Type) := StateM (Bench σ) α

namespace Job

variable {σ α : Type}

/-- Take in notices. -/
def tell (ns : List Notice) : Job σ Unit := modify fun b => { b with desk := b.desk.takeAll ns }

/-- Submit a report. -/
def report (r : Report) : Job σ Unit := tell [.report r]

/-- Leave a log record. -/
def log (level : LogLevel) (source : LogSource) (message : String) : Job σ Unit :=
  tell [.log level source message]

/-- The file system. -/
def files : Job σ FileSystem := fun b => (b.files, b)

/-- **Ask a collaborator** that cannot report. -/
def ask [Answer α] (call : Call) (act : Act σ α) : Job σ α := fun b =>
  let (answer, site) := act ⟨b.own, b.files, []⟩
  (answer,
    { own := site.own
      files := site.files
      desk := b.desk.takeAll (site.log.map fun r => .event (.log r))
      journal := b.journal ++ [⟨call, b.engine.errors, Answer.granted answer⟩] })

/-- **Consult a collaborator** that can report: it is shown the engine, and what it reports is
submitted. -/
def consult [Answer α] (call : Call) (act : Engine → Act σ (α × List Report)) : Job σ α := fun b =>
  let ((answer, reports), b') := ask call (act b.engine) b
  (answer, { b' with desk := b'.desk.takeAll (reports.map .report) })

end Job

end BatchCompiler

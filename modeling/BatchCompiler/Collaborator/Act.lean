import BatchCompiler.FileSystem
import BatchCompiler.Transcript

/-!
# Acts

A collaborator is asked for one thing at a time.  What it does on that occasion is an *act*: a total
function of its own state and the file system, which may change both and leave log records.  Nothing
is assumed about an act beyond that, so statements about a run hold for every behaviour of the
collaborators.

## Main definitions

* `Site` — what an act sees
* `Act` — acts with an answer
* `Act.within` — an act on one part of a larger state
-/

namespace BatchCompiler

/-- **What an act sees and may change.** -/
structure Site (σ : Type) where
  own : σ
  files : FileSystem
  /-- Log records left by the act. -/
  log : List LogRecord := []

/-- **An act** of a collaborator with state `σ`, and its answer. -/
abbrev Act (σ α : Type) := StateM (Site σ) α

namespace Act

variable {σ τ α : Type}

/-- Leave a log record. -/
def log (level : LogLevel) (source : LogSource) (message : String) : Act σ Unit :=
  modify fun s => { s with log := s.log ++ [⟨level, source, message⟩] }

/-- The collaborator's own state. -/
def own : Act σ σ := fun s => (s.own, s)

/-- Change the collaborator's own state. -/
def change (f : σ → σ) : Act σ Unit := modify fun s => { s with own := f s.own }

/-- The file system. -/
def files : Act σ FileSystem := fun s => (s.files, s)

/-- **Write a file**; when that fails nothing has changed. -/
def write (p : Path) (bytes : List UInt8) : Act σ (Except Fault Unit) := fun s =>
  match s.files.write p bytes with
  | .ok files => (.ok (), { s with files })
  | .error fault => (.error fault, s)

end Act

/-- **A part of a state**: how to read it and how to put it back. -/
structure StatePart (τ σ : Type) where
  get : τ → σ
  set : σ → τ → τ

/-- The first of two states. -/
def StatePart.first {α β : Type} : StatePart (α × β) α := ⟨Prod.fst, fun a p => (a, p.2)⟩

/-- The second of two states. -/
def StatePart.second {α β : Type} : StatePart (α × β) β := ⟨Prod.snd, fun b p => (p.1, b)⟩

/-- **An act on part of a state.** -/
def Act.within {σ τ α : Type} (part : StatePart τ σ) (act : Act σ α) : Act τ α := fun s =>
  let (a, s') := act ⟨part.get s.own, s.files, s.log⟩
  (a, ⟨part.set s'.own s.own, s'.files, s'.log⟩)

end BatchCompiler

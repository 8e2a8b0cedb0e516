import BatchCompiler.FileSystem
import BatchCompiler.Notice
import BatchCompiler.Options.ArgumentError
import BatchCompiler.ResponseFile.Token

/-!
# Expanding response files

An argument `@file` stands for the arguments in that file.  They are put at the end of the options,
that is before the first `--`, so what a user wrote after `--` stays the end of the list.  No name is
read twice, not even across several expansions that share their `seen` names.

## Main definitions

* `spliceBeforeSeparator` — where more arguments go
* `load` — one response file
* `expand` — all of them

Expansion ends because the names that can still be read are among the arguments given and those
written in the files, which are finitely many.
-/

namespace BatchCompiler.ResponseFile

/-- Ends the options. -/
def separator : String := "--"

/-- **Put `extra` before the first separator**, or at the end when there is none. -/
def spliceBeforeSeparator (args extra : List String) : List String :=
  args.takeWhile (· ≠ separator) ++ extra ++ args.dropWhile (· ≠ separator)

/-- Where `spliceBeforeSeparator` puts what it adds. -/
def separatorIndex (args : List String) : Nat := (args.takeWhile (· ≠ separator)).length

/-- **What loading or expanding gives**: arguments or an error, the names seen, and what to tell. -/
structure Outcome where
  result : Except ArgumentError (List String)
  seen : List String
  notices : List Notice

/-- Why the text of a file cannot be read. -/
def unreadableReason (fs : FileSystem) (file : String) : String :=
  match fs.read ⟨file⟩ with
  | .error fault => fault.message
  | .ok _ => "stream did not contain valid UTF-8"

/-- **The arguments of one response file**, which is thereby seen. -/
def load (fs : FileSystem) (seen : List String) (file : String) : Outcome :=
  if file ∈ seen then ⟨.error (.duplicateResponseFile file), seen, []⟩
  else
    match fs.readText? ⟨file⟩ with
    | none =>
        ⟨.error (.unreadableResponseFile file), seen ++ [file],
          [.log .debug .responseFile ("reading response file " ++ file ++ " failed: " ++
            unreadableReason fs file)]⟩
    | some text => ⟨.ok (tokenize text), seen ++ [file], []⟩

/-- The file named by an argument `@file`. -/
def fileNamed? (arg : String) : Option String := Text.afterLead? "@" arg

/-- Every argument written in a file of the file system. -/
def writtenTokens (fs : FileSystem) : List String :=
  fs.entries.values.flatMap fun entry =>
    match entry with
    | .file bytes => ((Text.Utf8.decode? bytes).map tokenize).getD []
    | _ => []

/-- **The names an expansion can come to read**: those given and those written in files. -/
def readableNames (fs : FileSystem) (args : List String) : List String :=
  ((args ++ writtenTokens fs).filterMap fileNamed?).eraseDups

/-- **Expand from a cursor**: `done` has been passed, `rest` is to come, and `names` are the names
that have not been read yet. -/
def expandFrom (fs : FileSystem) (names seen done rest : List String) : Outcome :=
  match rest with
  | [] => ⟨.ok done, seen, []⟩
  | arg :: rest =>
      if arg = separator then ⟨.ok (done ++ arg :: rest), seen, []⟩
      else
        match fileNamed? arg with
        | none => expandFrom fs names seen (done ++ [arg]) rest
        | some file =>
            let loaded := load fs seen file
            match loaded.result with
            | .error problem => ⟨.error problem, loaded.seen, loaded.notices⟩
            | .ok extra =>
                if file ∈ names then
                  let more := expandFrom fs (names.erase file) loaded.seen done
                    (spliceBeforeSeparator rest extra)
                  { more with
                    notices :=
                      .log .debug .responseFile ("response file " ++ file ++ " expanded to " ++
                        toString extra.length ++ " arguments") :: more.notices }
                else ⟨.error (.unreadableResponseFile file), loaded.seen, loaded.notices⟩
termination_by (names.length, rest.length)
decreasing_by
  · simp_wf
    omega
  · simp_wf
    have := List.length_erase_of_mem (by assumption : file ∈ names)
    have := List.length_pos_of_mem (by assumption : file ∈ names)
    omega

/-- **Expand every `@file`** before the first separator. -/
def expand (fs : FileSystem) (seen args : List String) : Outcome :=
  expandFrom fs (readableNames fs args) seen [] args

end BatchCompiler.ResponseFile

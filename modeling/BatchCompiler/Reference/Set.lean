import BatchCompiler.Notice
import BatchCompiler.OrderedMap
import BatchCompiler.Text.Alphabetic
import BatchCompiler.Text.Number

/-!
# References and aliases

The libraries a compilation refers to: hard references, soft ones that may be missing, and extern
aliases under which a library is reached by a name of its own.
-/

namespace BatchCompiler

/-- A letter or an underscore: what an identifier begins with. -/
def startsIdentifier (c : Char) : Bool := Text.isAlphabetic c || c = '_'

/-- A letter or a number. -/
def isAlphanumeric (c : Char) : Bool := Text.isAlphabetic c || Text.isNumber c

/-- Connectors, joiners and the combining marks that an alias may hold. -/
def aliasMarkRanges : Text.CodePointRanges :=
  [(0x5F, 0x5F), (0x300, 0x36F), (0x1AB0, 0x1AFF), (0x1DC0, 0x1DFF), (0x200C, 0x200D),
   (0x203F, 0x2040), (0x2054, 0x2054), (0x20D0, 0x20FF), (0xFE20, 0xFE2F), (0xFE33, 0xFE34),
   (0xFE4D, 0xFE4F), (0xFF3F, 0xFF3F)]

/-- A character that may follow in an alias. -/
def continuesAlias (c : Char) : Bool := isAlphanumeric c || aliasMarkRanges.contains c.toNat

/-- **An alias is an identifier**: a letter or underscore, then letters, numbers, connectors, joiners
or combining marks. -/
def isValidAlias (alias_ : String) : Bool :=
  match alias_.toList with
  | [] => false
  | c :: rest => startsIdentifier c && rest.all continuesAlias

/-- **The references of a compilation.** -/
structure ReferenceSet where
  hard : List String := []
  /-- Dropped without a word when they cannot be found. -/
  soft : List String := []
  /-- Alias to library; the last assignment wins. -/
  aliases : OrderedMap String String := {}
deriving DecidableEq, Repr

namespace ReferenceSet

/-- Add a hard reference. -/
def addHard (s : ReferenceSet) (name : String) : ReferenceSet := { s with hard := s.hard ++ [name] }

/-- Add a soft reference. -/
def addSoft (s : ReferenceSet) (name : String) : ReferenceSet := { s with soft := s.soft ++ [name] }

/-- What is wrong with binding an alias to a library, if anything is: a missing library is noticed
before an invalid alias. -/
def aliasProblem? (alias_ name : String) : Option Notice :=
  if name = "" then
    some (.error 1680 ("Invalid reference alias `" ++ alias_ ++ "='. Missing filename"))
  else if !isValidAlias alias_ then
    some (.error 1679 ("Invalid extern alias for -reference. Alias `" ++ alias_ ++
      "' is not a valid identifier"))
  else none

/-- **Bind an alias**; an invalid binding is reported and leaves the set as it was. -/
def addAlias (s : ReferenceSet) (alias_ name : String) : ReferenceSet × List Notice :=
  match aliasProblem? alias_ name with
  | some problem => (s, [problem])
  | none => ({ s with aliases := s.aliases.put alias_ name }, [])

/-- **Add a reference as written**: `alias=library`, or a library alone. -/
def addWritten (s : ReferenceSet) (entry : String) : ReferenceSet × List Notice :=
  match Text.cutAtFirst? '=' entry with
  | some (alias_, name) => s.addAlias alias_ name
  | none => (s.addHard entry, [])

end ReferenceSet

end BatchCompiler

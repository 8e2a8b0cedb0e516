import BatchCompiler.Text.Alphabetic
import BatchCompiler.Text.Blank
import BatchCompiler.Text.Letter
import BatchCompiler.Text.Mark
import BatchCompiler.Text.Number
import BatchCompiler.Text.Recent

/-!
# Word characters and identifiers

Two notions that overlap: a *word character* is anything that can be inside a word of some script, an
*identifier* is a letter or underscore followed by letters, numbers and underscores.  A recent character
is neither in a word nor in an identifier.
-/

namespace BatchCompiler.Text

/-- Connector punctuation (general category `Pc`) and the two joiners. -/
def connectorRanges : CodePointRanges :=
  [(0x5F, 0x5F), (0x200C, 0x200D), (0x203F, 0x2040), (0x2054, 0x2054), (0xFE33, 0xFE34),
   (0xFE4D, 0xFE4F), (0xFF3F, 0xFF3F)]

/-- **Word character**: alphabetic, a mark, a decimal digit, a connector or a joiner. -/
def isWordChar (c : Char) : Bool :=
  (isAlphabetic c || isMark c || isDecimalDigit c || connectorRanges.contains c.toNat) &&
    !isRecent c

/-- A letter or an underscore. -/
def startsName (c : Char) : Bool := (isLetter c || c = '_') && !isRecent c

/-- A letter, a number or an underscore. -/
def continuesName (c : Char) : Bool := (isLetter c || isNumber c || c = '_') && !isRecent c

/-- A decimal digit, in any script. -/
def continuesNumeral (c : Char) : Bool := isDecimalDigit c && !isRecent c

/-- **The identifier at the front**, as long as possible, and what follows it. -/
def takeName? : List Char → Option (List Char × List Char)
  | [] => none
  | c :: rest =>
      if startsName c then some (c :: rest.takeWhile continuesName, rest.dropWhile continuesName)
      else none

/-- What follows one or more blanks. -/
def afterBlanks? : List Char → Option (List Char)
  | [] => none
  | c :: rest => if isBlank c then some (rest.dropWhile isBlank) else none

/-- What follows a given text at the front. -/
def afterChars? (lead cs : List Char) : Option (List Char) :=
  if lead.isPrefixOf cs then some (cs.drop lead.length) else none

/-- Bytes of some characters in UTF-8. -/
def byteLength (cs : List Char) : Nat := cs.foldl (fun n c => n + c.utf8Size) 0

end BatchCompiler.Text

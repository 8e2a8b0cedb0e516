import BatchCompiler.Text.Ranges

/-!
# White space

The Unicode property `White_Space`, and what is read with its help: trimmed texts and words.
-/

namespace BatchCompiler.Text

/-- Code points with the property `White_Space`, ascending. -/
def blankRanges : CodePointRanges :=
  [(0x9, 0xD), (0x20, 0x20), (0x85, 0x85), (0xA0, 0xA0), (0x1680, 0x1680), (0x2000, 0x200A),
   (0x2028, 0x2029), (0x202F, 0x202F), (0x205F, 0x205F), (0x3000, 0x3000)]

/-- **Blank**: white space in the Unicode sense, line breaks included. -/
def isBlank (c : Char) : Bool := blankRanges.contains c.toNat

/-- Characters without the blanks at the end. -/
def dropBlankEnd (cs : List Char) : List Char := (cs.reverse.dropWhile isBlank).reverse

/-- **Trimmed** on both sides. -/
def trim (s : String) : String := String.ofList (dropBlankEnd (s.toList.dropWhile isBlank))

/-- **Trimmed** at the end only. -/
def trimEnd (s : String) : String := String.ofList (dropBlankEnd s.toList)

/-- Words of a text, with `carry` the open word so far, last character first. -/
def wordsFrom (carry : List Char) : List Char → List (List Char)
  | [] => if carry.isEmpty then [] else [carry.reverse]
  | c :: rest =>
      if isBlank c then
        if carry.isEmpty then wordsFrom [] rest else carry.reverse :: wordsFrom [] rest
      else wordsFrom (c :: carry) rest

/-- **The words of a text**: its maximal runs of characters that are not blank. -/
def words (s : String) : List String := (wordsFrom [] s.toList).map String.ofList

end BatchCompiler.Text

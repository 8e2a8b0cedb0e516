/-!
# Cutting texts at characters

Lists written as text (`a;b,c`), pairs (`name=value`, `option:value`) and lines.
-/

namespace BatchCompiler.Text

/-- **Pieces** between the characters that satisfy `p`.  There is always one more piece than there
are such characters, so a text without any is its own single piece. -/
def splitChars (p : Char → Bool) : List Char → List (List Char)
  | [] => [[]]
  | c :: rest =>
      if p c then [] :: splitChars p rest
      else
        match splitChars p rest with
        | [] => [[c]]
        | piece :: pieces => (c :: piece) :: pieces

/-- **Pieces of a text**, empty ones included. -/
def pieces (p : Char → Bool) (s : String) : List String :=
  (splitChars p s.toList).map String.ofList

/-- A comma or a semicolon: what stands between the entries of a list option. -/
def isListMark (c : Char) : Bool := c = ',' || c = ';'

/-- **Entries of a list option**, cut at commas and semicolons, empty ones left out. -/
def entries (s : String) : List String := (pieces isListMark s).filter (· ≠ "")

/-- The text before and after the first `mark`, if there is one. -/
def cutAtFirst? (mark : Char) (s : String) : Option (String × String) :=
  match s.toList.span (· ≠ mark) with
  | (_, []) => none
  | (before, _ :: after) => some (String.ofList before, String.ofList after)

/-- The characters before and after the last `mark`, if there is one. -/
def cutCharsAtLast? (mark : Char) : List Char → Option (List Char × List Char)
  | [] => none
  | c :: rest =>
      match cutCharsAtLast? mark rest with
      | some (before, after) => some (c :: before, after)
      | none => if c = mark then some ([], rest) else none

/-- The text before and after the last `mark`, if there is one. -/
def cutAtLast? (mark : Char) (s : String) : Option (String × String) :=
  (cutCharsAtLast? mark s.toList).map fun (before, after) =>
    (String.ofList before, String.ofList after)

/-- `s` without `lead` in front, if it starts so. -/
def afterLead? (lead : String) (s : String) : Option String :=
  if lead.toList.isPrefixOf s.toList then some (String.ofList (s.toList.drop lead.length)) else none

/-- Something is left exactly of the texts that `lead` begins. -/
theorem afterLead?_eq_some_iff {lead s rest : String} :
    afterLead? lead s = some rest ↔ s = lead ++ rest := by
  unfold afterLead?
  constructor
  · intro h
    split at h
    · rename_i isPrefix
      obtain ⟨behind, hbehind⟩ := List.isPrefixOf_iff_prefix.mp isPrefix
      cases h
      apply String.toList_inj.mp
      rw [String.toList_append, String.toList_ofList, ← hbehind, ← String.length_toList,
        List.drop_left]
    · cases h
  · rintro rfl
    rw [String.toList_append, if_pos (List.isPrefixOf_iff_prefix.mpr (List.prefix_append _ _)),
      ← String.length_toList, List.drop_left, String.ofList_toList]

/-- `s` without `tail` at its end, if it ends so. -/
def beforeTail? (tail : String) (s : String) : Option String :=
  if tail.toList.isSuffixOf s.toList then
    some (String.ofList (s.toList.take (s.length - tail.length)))
  else none

/-- The carriage return that ends a line, read backwards, is no part of it. -/
def dropReturn : List Char → List Char
  | '\r' :: rest => rest
  | cs => cs

/-- Lines of a text, with `carry` the open line so far, last character first. -/
def linesFrom (carry : List Char) : List Char → List (List Char)
  | [] => if carry.isEmpty then [] else [carry.reverse]
  | c :: rest =>
      if c = '\n' then (dropReturn carry).reverse :: linesFrom [] rest
      else linesFrom (c :: carry) rest

/-- **Lines**: each ends at a line feed, of which a carriage return right before it is a part; what
follows the last line feed is a line of its own unless it is empty, and keeps its carriage return. -/
def lines (s : String) : List (List Char) := linesFrom [] s.toList

end BatchCompiler.Text
